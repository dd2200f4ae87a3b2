import PowerDisasm.Text.Blank
import PowerDisasm.Text.Quoted

/-! # Numbers given by a user

An unsigned 64-bit number in decimal, or in hexadecimal behind `0x`. Blank
characters around it and underscores anywhere in it do not count. -/

namespace PowerDisasm.Number

inductive Fault where
  | noDigits
  | strangeDigit
  | tooLarge
deriving DecidableEq

namespace Fault

def message : Fault → String
  | .noDigits => "cannot parse integer from empty string"
  | .strangeDigit => "invalid digit found in string"
  | .tooLarge => "number too large to fit in target type"

end Fault

/-- A text that is not a number, as it stands after blanks and underscores are
taken away. -/
structure Invalid where
  text : String
  fault : Fault
deriving DecidableEq

def Invalid.message (invalid : Invalid) : String :=
  "invalid number " ++ Quoted.quote invalid.text ++ ": " ++ invalid.fault.message

def digitValue? (radix : Nat) (character : Char) : Option Nat :=
  let value? :=
    if '0' ≤ character ∧ character ≤ '9' then some (character.toNat - '0'.toNat)
    else if 'a' ≤ character ∧ character ≤ 'z' then some (character.toNat - 'a'.toNat + 10)
    else if 'A' ≤ character ∧ character ≤ 'Z' then some (character.toNat - 'A'.toNat + 10)
    else none
  value?.filter (· < radix)

/-- Reads digits from the left, on top of the value of those before. The first
digit that is none or that carries the value past 64 bits ends the reading. -/
def readDigits (radix : Nat) : Nat → List Char → Except Fault Nat
  | value, [] => .ok value
  | value, character :: rest =>
      match digitValue? radix character with
      | none => .error .strangeDigit
      | some digit =>
          if value * radix + digit < 1 <<< 64 then
            readDigits radix (value * radix + digit) rest
          else
            .error .tooLarge

/-- Digits behind an optional plus sign. A sign alone is no digit. -/
def readUnsigned (radix : Nat) : List Char → Except Fault Nat
  | [] => .error .noDigits
  | ['+'] => .error .strangeDigit
  | '+' :: digits => readDigits radix 0 digits
  | digits => readDigits radix 0 digits

def normalize (text : String) : List Char :=
  (Blank.trim text.toList).filter (· ≠ '_')

def readNormalized : List Char → Except Fault Nat
  | '0' :: 'x' :: digits => readUnsigned 16 digits
  | '0' :: 'X' :: digits => readUnsigned 16 digits
  | digits => readUnsigned 10 digits

def parse (text : String) : Except Invalid Nat :=
  match readNormalized (normalize text) with
  | .ok number => .ok number
  | .error fault => .error ⟨String.ofList (normalize text), fault⟩

example : parse " 0x8200_0000" = .ok 0x82000000 := by cbv
example : parse "0x+f" = .ok 15 := by cbv
example : parse "99999999999999999999x" = .error ⟨"99999999999999999999x", .tooLarge⟩ := by cbv

end PowerDisasm.Number
