/-! # Numerals

Decimal and hexadecimal text of numbers. -/

namespace PowerDisasm.Numeral

def decimal (number : Nat) : String :=
  String.ofList (Nat.toDigits 10 number)

def signed : Int → String
  | .ofNat number => decimal number
  | .negSucc below => "-" ++ decimal (below + 1)

def hex (number : Nat) : String :=
  String.ofList (Nat.toDigits 16 number)

def fill (width : Nat) (digits : List Char) : String :=
  String.ofList (List.replicate (width - digits.length) '0' ++ digits)

def lowerHex (width number : Nat) : String :=
  fill width (Nat.toDigits 16 number)

/-- Hexadecimal digits in upper case, filled with zeros up to `width` digits. -/
def upperHex (width number : Nat) : String :=
  fill width ((Nat.toDigits 16 number).map Char.toUpper)

example : signed (-8) = "-8" := by decide
example : hex 0x8000A = "8000a" := by decide
example : lowerHex 8 0x1E10 = "00001e10" := by decide
example : upperHex 8 0x1E10 = "00001E10" := by decide
example : upperHex 0 0 = "0" := by decide

end PowerDisasm.Numeral
