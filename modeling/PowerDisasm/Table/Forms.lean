import PowerDisasm.DecodeTree
import PowerDisasm.InstructionForm

/-! # Entries of instruction tables

Shorthands for the leaves and keys of which the instruction tables are made. -/

namespace PowerDisasm.Table

abbrev InstructionTree := DecodeTree InstructionForm

abbrev Entries := List (Nat × InstructionTree)

def tagged (tags : InstructionTags) (mnemonic : Mnemonic) (steps : List DecodeStep) :
    InstructionTree :=
  .form ⟨mnemonic, tags, steps⟩

/-- An instruction after which the next one follows. -/
def plain : Mnemonic → List DecodeStep → InstructionTree :=
  tagged { linear := true }

def privileged : Mnemonic → List DecodeStep → InstructionTree :=
  tagged { linear := true, privileged := true }

def trap : Mnemonic → List DecodeStep → InstructionTree :=
  tagged { linear := true, conditional := true }

/-- A node whose key is one field, in which only the listed values of the key
belong to instructions. -/
def select (key : Field) (listed : Entries) : InstructionTree :=
  .sparse [key] listed .invalid

def choose (bit : Field) (clear set : InstructionTree) : InstructionTree :=
  .dense [bit] [clear, set]

def shiftAmount : List Field := [.bit 1, .span 11 5]

def maskBound : List Field := [.bit 5, .span 6 5]

def extendedOpcode : Field := .span 1 10

end PowerDisasm.Table
