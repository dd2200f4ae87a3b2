import PowerDisasm.Model
import PowerDisasm.Table.Branch
import PowerDisasm.Table.FloatingPoint
import PowerDisasm.Table.Integer
import PowerDisasm.Table.Storage
import PowerDisasm.Table.System
import PowerDisasm.Table.Vector
import PowerDisasm.Table.Vector128

/-! # The table of primary opcodes

The instruction tree of each processor model, by the opcode in bits 26 to 31.
The models with 32 vector registers have the same tree; instructions that only
64-bit processors have are told apart by a step of their forms. -/

namespace PowerDisasm.Table

open Mnemonic

/-- Opcode 31, by the extended opcode. -/
def registerGroup : InstructionTree :=
  select extendedOpcode
    (Integer.registerEntries ++ Storage.registerEntries ++ Vector.registerEntries ++
      System.registerEntries)

def commonEntries : Entries :=
  Integer.primaryEntries ++ Storage.primaryEntries ++ [
    (16, Branch.onCondition),
    (17, tagged { linear := true, call := true } sc []),
    (18, Branch.unconditional),
    (19, Branch.registerGroup),
    (30, Integer.rotate64),
    (31, registerGroup),
    (59, FloatingPoint.single),
    (63, FloatingPoint.double)]

def vectorEntries (has128 : Bool) : Entries :=
  if has128 then
    [(4, Vector.group Vector128.storageEntries), (5, Vector128.permuteGroup),
     (6, Vector128.compareGroup)]
  else
    [(4, Vector.group [])]

def primaryOpcode : Field := .span 26 6

def primary (has128 : Bool) : InstructionTree :=
  select primaryOpcode (commonEntries ++ vectorEntries has128)

def withVector32 : InstructionTree := primary false

def withVector128 : InstructionTree := primary true

end PowerDisasm.Table

namespace PowerDisasm

def Model.tree (model : Model) : DecodeTree InstructionForm :=
  if model.hasVector128 then Table.withVector128 else Table.withVector32

end PowerDisasm
