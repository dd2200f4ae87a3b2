import PowerDisasm.Bits.Field
import PowerDisasm.InstructionTags
import PowerDisasm.Mnemonic
import PowerDisasm.Text.Quoted

/-! # Instruction forms

How the operands of an instruction are read from its encoding: a list of
steps, each of which reads one operand, sets the record flag, or checks that
the encoding is one of the instruction at all. -/

namespace PowerDisasm

/-- One step of reading an encoding. Offsets and positions count from the least
significant bit. -/
inductive DecodeStep where
  | general (offset : Nat)
  | floating (offset : Nat)
  /-- The first register of a floating-point pair, which has an even number. -/
  | floatingPair (offset : Nat)
  | vector (offset : Nat)
  | condition (offset : Nat)
  | comparisonResult
  /-- A special-purpose register whose number is stored with its halves swapped. -/
  | special
  /-- One of 128 vector registers: bits 21 to 25 below bits 2 and 3. -/
  | vectorTarget128
  /-- One of 128 vector registers: bits 16 to 20 below bit 5 and bit 10. -/
  | vectorFirst128
  /-- One of 128 vector registers: bits 11 to 15 below bits 0 and 1. -/
  | vectorSecond128
  | vectorControl128
  | signed16
  | unsigned16
  | unsigned5 (offset : Nat)
  | unsignedField (field : Field)
  | signedField (field : Field)
  | unsignedFields (fields : List Field)
  | signedFields (fields : List Field)
  | conditionMask
  | memory (offset : Nat)
  | alignedMemory
  /-- A place in memory whose displacement lacks its two low bits, which select
  the instruction. -/
  | selectedMemory (offset : Nat)
  | target (field : Field)
  | recordFlag
  | recordFlag6
  | recordFlag10
  | alwaysRecords
  | only64
deriving DecidableEq

inductive StepEffect where
  | operand
  | flag
  | guard
deriving DecidableEq

def StepEffect.name : StepEffect → String
  | .operand => "Operand"
  | .flag => "Flag"
  | .guard => "Guard"

namespace DecodeStep

def ofByteField (position length : Nat) : Except ConstructionFault DecodeStep :=
  if length ≤ 8 then
    match Field.ofBounds position length with
    | .ok field => .ok (.unsignedField field)
    | .error fault => .error fault
  else
    .error (.fieldExceedsByte position length)

def effect : DecodeStep → StepEffect
  | .recordFlag => .flag
  | .recordFlag6 => .flag
  | .recordFlag10 => .flag
  | .alwaysRecords => .flag
  | .only64 => .guard
  | _ => .operand

/-! ## Names -/

def offsetName (kind : String) (offset : Nat) : String :=
  kind ++ "(" ++ Numeral.decimal offset ++ ")"

def fieldName (field : Field) : String :=
  Numeral.decimal field.position ++ "_" ++ Numeral.decimal field.length

def fieldsName (kind : String) (fields : List Field) : String :=
  kind ++ "[" ++ String.intercalate "," (fields.map fieldName) ++ "]"

/-- The name by which a diagnostic tells which step rejected an encoding. -/
def name : DecodeStep → String
  | .general offset => offsetName "r" offset
  | .floating offset => offsetName "f" offset
  | .floatingPair offset => offsetName "p" offset
  | .vector offset => offsetName "v" offset
  | .condition offset => offsetName "cr" offset
  | .comparisonResult => "X3"
  | .special => "SPR"
  | .vectorTarget128 => "Wd"
  | .vectorFirst128 => "Wa"
  | .vectorSecond128 => "Wb"
  | .vectorControl128 => "Wc"
  | .signed16 => "S"
  | .unsigned16 => "U"
  | .unsigned5 offset => offsetName "I" offset
  | .unsignedField field => "u" ++ fieldName field
  | .signedField field => "s" ++ fieldName field
  | .unsignedFields fields => fieldsName "u" fields
  | .signedFields fields => fieldsName "s" fields
  | .conditionMask => "M"
  | .memory offset => offsetName "E" offset
  | .alignedMemory => "E2_2"
  | .selectedMemory _ => "Ds"
  | .target _ => "J"
  | .recordFlag => "C"
  | .recordFlag6 => "C6"
  | .recordFlag10 => "C10"
  | .alwaysRecords => "CC"
  | .only64 => "Is64Bit"

example : (unsignedFields [.span 1 1, .span 11 5]).name =
    "u[1_1,11_5]" := by decide

def describe (step : DecodeStep) : String :=
  Record.describe "Mutator" [("name", Quoted.quote step.name), ("effect", step.effect.name)]

end DecodeStep

structure InstructionForm where
  mnemonic : Mnemonic
  tags : InstructionTags
  steps : List DecodeStep
deriving DecidableEq

namespace InstructionForm

def operandCount (form : InstructionForm) : Nat :=
  form.steps.countP fun step => step.effect = .operand

def describe (form : InstructionForm) : String :=
  Record.describe "InstrDecoder" [
    ("mnemonic", form.mnemonic.name),
    ("class", form.tags.describe),
    ("mutators", Record.list (form.steps.map fun step => Quoted.quote step.name))]

end InstructionForm

end PowerDisasm
