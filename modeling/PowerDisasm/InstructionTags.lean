import PowerDisasm.Bits.Field
import PowerDisasm.Text.Numeral

/-! # Instruction tags

What is known of an instruction's effect on the flow of control, as a set of
tags. A conditional call, for instance, has the tags `transfer`, `conditional`
and `call`. -/

namespace PowerDisasm

structure InstructionTags where
  linear : Bool := false
  transfer : Bool := false
  conditional : Bool := false
  /-- A return address is saved. -/
  call : Bool := false
  ret : Bool := false
  /-- The target is in a register. -/
  indirect : Bool := false
  privileged : Bool := false
  invalid : Bool := false
  zero : Bool := false
deriving DecidableEq

namespace InstructionTags

def union (left right : InstructionTags) : InstructionTags where
  linear := left.linear || right.linear
  transfer := left.transfer || right.transfer
  conditional := left.conditional || right.conditional
  call := left.call || right.call
  ret := left.ret || right.ret
  indirect := left.indirect || right.indirect
  privileged := left.privileged || right.privileged
  invalid := left.invalid || right.invalid
  zero := left.zero || right.zero

def fallsThrough (tags : InstructionTags) : Bool :=
  tags.linear || tags.conditional || tags.call

def endsBlock (tags : InstructionTags) : Bool :=
  tags.transfer || tags.invalid

/-! ## Names and numbers -/

/-- Each tag's name, its bit in a number, and whether the set has it. -/
def table (tags : InstructionTags) : List (String × Nat × Bool) :=
  [("LINEAR", 0, tags.linear), ("TRANSFER", 1, tags.transfer),
   ("CONDITIONAL", 2, tags.conditional), ("CALL", 3, tags.call),
   ("RETURN", 4, tags.ret), ("INDIRECT", 5, tags.indirect),
   ("PRIVILEGED", 6, tags.privileged), ("INVALID", 8, tags.invalid),
   ("ZERO", 9, tags.zero)]

def names (tags : InstructionTags) : List String :=
  (tags.table.filter fun row => row.2.2).map (·.1)

def toBits (tags : InstructionTags) : Nat :=
  ((tags.table.filter fun row => row.2.2).map fun row => 1 <<< row.2.1).foldl (· + ·) 0

def ofBits (bits : Word) : InstructionTags where
  linear := bits.getLsbD 0
  transfer := bits.getLsbD 1
  conditional := bits.getLsbD 2
  call := bits.getLsbD 3
  ret := bits.getLsbD 4
  indirect := bits.getLsbD 5
  privileged := bits.getLsbD 6
  invalid := bits.getLsbD 8
  zero := bits.getLsbD 9

def ofName? : String → Option InstructionTags
  | "LINEAR" => some { linear := true }
  | "TRANSFER" => some { transfer := true }
  | "CONDITIONAL" => some { conditional := true }
  | "CALL" => some { call := true }
  | "RETURN" => some { ret := true }
  | "INDIRECT" => some { indirect := true }
  | "PRIVILEGED" => some { privileged := true }
  | "INVALID" => some { invalid := true }
  | "ZERO" => some { zero := true }
  | _ => none

def describe (tags : InstructionTags) : String :=
  match tags.names with
  | [] => "InstrClass(0x0)"
  | names => "InstrClass(" ++ String.intercalate " | " names ++ ")"

end InstructionTags

end PowerDisasm
