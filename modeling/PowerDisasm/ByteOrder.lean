import PowerDisasm.Bits.Field
import PowerDisasm.Text.Quoted

/-! # Byte order

How the four bytes of an encoding word lie in an image. -/

namespace PowerDisasm

inductive ByteOrder where
  | big
  | little
deriving DecidableEq

/-- The four bytes of a word in the order in which an image stores them. -/
abbrev WordBytes := Vector UInt8 4

/-- The four bytes that begin at a position, if there are so many. -/
def WordBytes.get? (bytes : ByteArray) (position : Nat) : Option WordBytes :=
  if within : position + 4 ≤ bytes.size then
    some #v[bytes[position], bytes[position + 1], bytes[position + 2], bytes[position + 3]]
  else
    none

def WordBytes.text (bytes : WordBytes) : String :=
  String.intercalate " " (bytes.toList.map fun byte => Numeral.upperHex 2 byte.toNat)

namespace ByteOrder

def byteAt (word : Word) (low : Nat) : UInt8 :=
  UInt8.ofBitVec ((word >>> low).setWidth 8)

def toBytes (order : ByteOrder) (word : Word) : WordBytes :=
  match order with
  | .big => #v[byteAt word 24, byteAt word 16, byteAt word 8, byteAt word 0]
  | .little => #v[byteAt word 0, byteAt word 8, byteAt word 16, byteAt word 24]

/-- The word with the bytes `first` (most significant) to `fourth`. -/
def join (first second third fourth : UInt8) : Word :=
  first.toBitVec ++ second.toBitVec ++ third.toBitVec ++ fourth.toBitVec

def ofBytes (order : ByteOrder) (bytes : WordBytes) : Word :=
  match order with
  | .big => join bytes[0] bytes[1] bytes[2] bytes[3]
  | .little => join bytes[3] bytes[2] bytes[1] bytes[0]

example : toBytes .big 0x38600001 = #v[0x38, 0x60, 0x00, 0x01] := by decide
example : ofBytes .little #v[0x38, 0x60, 0x00, 0x01] = 0x01006038 := by decide

/-! ## Names -/

def all : List ByteOrder := [.big, .little]

def name : ByteOrder → String
  | .big => "big"
  | .little => "little"

structure Unknown where
  text : String
deriving DecidableEq

def Unknown.message (unknown : Unknown) : String :=
  "Unknown byte order " ++ Quoted.quote unknown.text ++ " (expected big or little)"

def parse (text : String) : Except Unknown ByteOrder :=
  match text.map Char.toLower with
  | "big" | "be" => .ok .big
  | "little" | "le" => .ok .little
  | _ => .error ⟨text⟩

example : parse "LE" = .ok .little := by cbv

end ByteOrder

end PowerDisasm
