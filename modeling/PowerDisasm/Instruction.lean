import PowerDisasm.InstructionTags
import PowerDisasm.Mnemonic
import PowerDisasm.Operand

/-! # Instruction records

What one encoding word was decoded to. -/

namespace PowerDisasm

structure Instruction where
  mnemonic : Mnemonic
  tags : InstructionTags
  address : Address
  length : Nat
  operands : List Operand
  /-- Whether the result is also recorded in condition field 0. -/
  setsCr0 : Bool
deriving DecidableEq

namespace Instruction

def encodedLength : Nat := 4

def illegal (address : Address) : Instruction where
  mnemonic := .illegal
  tags := { invalid := true }
  address := address
  length := encodedLength
  operands := []
  setsCr0 := false

def isValid (instruction : Instruction) : Bool :=
  !instruction.tags.invalid

def nextAddress (instruction : Instruction) : Address :=
  instruction.address.offset instruction.length

/-- The mnemonic, a dot if the instruction records its result, and the operands
with commas between them behind a tab. -/
def text (instruction : Instruction) : String :=
  let head := instruction.mnemonic.name ++ if instruction.setsCr0 then "." else ""
  match instruction.operands with
  | [] => head
  | operands => head ++ "\t" ++ String.intercalate "," (operands.map Operand.text)

example : (illegal (.ofNat 0x10)).text = "illegal" := rfl
example : (illegal (.ofNat 0x10)).nextAddress = .ofNat 0x14 := by decide

end Instruction

end PowerDisasm
