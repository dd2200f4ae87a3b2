/-! # Text that reads as a number

A reader of a report takes a run of decimal digits for a whole number, and two
runs with an `E` between them for a floating-point number, unless that number is
too large for one of double precision. -/

namespace PowerDisasm.NumberLike

def decimalValue (digits : List Char) : Nat :=
  digits.foldl (fun value digit => 10 * value + (digit.toNat - '0'.toNat)) 0

/-- The least number that is rounded to infinity in double precision: half a
unit in the last place above the largest finite one. -/
def overflowBound : Nat := 1 <<< 1024 - 1 <<< 970

/-- Whether a number with a decimal exponent is finite in double precision. No
whole number but zero is with an exponent of more than 308. -/
def isFinite (mantissa exponent : Nat) : Bool :=
  mantissa = 0 || (exponent ≤ 308 && mantissa * Nat.pow 10 exponent < overflowBound)

def isDigits (text : List Char) : Bool :=
  !text.isEmpty && text.all Char.isDigit

def test (text : List Char) : Bool :=
  match text.span (· ≠ 'E') with
  | (digits, []) => isDigits digits
  | (mantissa, _ :: exponent) =>
      isDigits mantissa && isDigits exponent &&
        isFinite (decimalValue mantissa) (decimalValue exponent)

example : test "00000E00".toList = true := by decide
example : test "12E45678".toList = false := by decide
example : test "0000000E".toList = false := by decide

end PowerDisasm.NumberLike
