import PowerDisasm.ConstructionFault
import PowerDisasm.Text.Record

/-! # Bit fields of an encoding word

A field is a run of bits of a 32-bit word, named by its lowest bit. A list of
fields reads as one value whose most significant bits come from the first
field of the list, which is how an immediate that is scattered over a word is
put together. `gather` reads such a value and `scatter` writes it. -/

namespace PowerDisasm

abbrev Word := BitVec 32

/-- The run of `length` bits whose least significant bit is bit `position`. -/
structure Field where
  position : Nat
  length : Nat
  length_pos : 1 ≤ length := by decide
  inside_word : position + length ≤ 32 := by decide
deriving DecidableEq

/-- The low `bits` bits of `value` as a number in two's complement. No bits at
all stand for zero, and a word has no more than 32 of them. -/
def signExtend (value : Word) (bits : Nat) : Word :=
  (value.setWidth (min bits 32)).signExtend 32

example : (signExtend 0x10#32 5).toInt = -16 := by decide
example : (signExtend 0xFFFFFFFF#32 0).toInt = 0 := by decide
example : (signExtend 0x80000000#32 40).toInt = -2147483648 := by decide

theorem toInt_signExtend (value : Word) (bits : Nat) :
    (signExtend value bits).toInt = (value.setWidth (min bits 32)).toInt := by
  rw [signExtend, BitVec.toInt_signExtend_of_le (Nat.min_le_right bits 32)]

namespace Field

def ofBounds (position length : Nat) : Except ConstructionFault Field :=
  if bounds : 1 ≤ length ∧ position + length ≤ 32 then
    .ok ⟨position, length, bounds.1, bounds.2⟩
  else
    .error .fieldOutsideWord

def span (position length : Nat)
    (inside : decide (1 ≤ length ∧ position + length ≤ 32) = true := by exact .refl true) :
    Field :=
  ⟨position, length, (of_decide_eq_true inside).1, (of_decide_eq_true inside).2⟩

def bit (position : Nat)
    (inside : decide (1 ≤ 1 ∧ position + 1 ≤ 32) = true := by exact .refl true) : Field :=
  span position 1 inside

def valueMask (field : Field) : Word :=
  BitVec.ofNat 32 (1 <<< field.length - 1)

def wordMask (field : Field) : Word :=
  field.valueMask <<< field.position

def read (field : Field) (word : Word) : Word :=
  (word >>> field.position) &&& field.valueMask

def readSigned (field : Field) (word : Word) : Word :=
  signExtend (field.read word) field.length

def describe (field : Field) : String :=
  Record.describe "Bitfield" [
    ("position", Numeral.decimal field.position),
    ("length", Numeral.decimal field.length),
    ("mask", Numeral.decimal field.valueMask.toNat)]

/-! ## Lists of fields -/

/-- The number of bits that a list of fields reads. It exceeds 32 for a list
that reads bits twice. -/
def totalLength : List Field → Nat
  | [] => 0
  | field :: rest => field.length + totalLength rest

/-- The fields side by side, the first one most significant. Bits that do not
fit a word are dropped at the top. -/
def gather : List Field → Word → Word
  | [], _ => 0
  | field :: rest, word =>
      field.read word <<< totalLength rest ||| gather rest word

def gatherSigned (fields : List Field) (word : Word) : Word :=
  signExtend (gather fields word) (totalLength fields)

def mask : List Field → Word
  | [] => 0
  | field :: rest => field.wordMask ||| mask rest

/-- The word that has `value` spread over the fields, the last field taking
the least significant bits. Bits of `value` that no field takes are dropped. -/
def scatter : List Field → Word → Word
  | [], _ => 0
  | field :: rest, value =>
      (((value >>> totalLength rest) &&& field.valueMask) <<< field.position)
        ||| scatter rest value

example : gather [.span 1 1, .span 11 5]
    0x1802#32 = 0b100011#32 := by decide

example : scatter [.span 1 1, .span 11 5]
    0b100011#32 = 0x1802#32 := by decide

end Field

end PowerDisasm
