import PowerDisasm.Yaml.Scalar

/-! # Values of settings

What a scalar says about a setting: a number, one of several names, or that no
value is given. -/

namespace PowerDisasm.Yaml.Scalar

def digits? (radix : Nat) (digits : List Char) : Option Nat :=
  if digits.isEmpty then none else (Number.readDigits radix 0 digits).toOption

def dropPlus : List Char → List Char
  | '+' :: rest => rest
  | text => text

/-- The number that a text denotes: digits behind an optional plus sign, decimal
without a leading zero, or behind `0x`, `0o` or `0b`. -/
def numberOfText? (text : List Char) : Option Nat :=
  match dropPlus text with
  | '0' :: 'x' :: digits => digits? 16 digits
  | '0' :: 'o' :: digits => digits? 8 digits
  | '0' :: 'b' :: digits => digits? 2 digits
  | '0' :: _ :: _ => none
  | digits => digits? 10 digits

example : numberOfText? "+0x1F".toList = some 31 := by decide
example : numberOfText? "010".toList = none := by decide

/-- Whether the scalar may be a number: plain text, or literal text whose tag says
that it is one. -/
def mayBeNumber (scalar : Scalar) : Bool :=
  scalar.style = .plain || (scalar.style = .literal && scalar.tag = some .int)

def number? (scalar : Scalar) : Option Nat :=
  if scalar.mayBeNumber then numberOfText? scalar.text else none

/-- The one of several values that the scalar names. A tag of the document itself
is the name, and then there must be no other. -/
def named? {α : Type} (name : α → String) (values : List α) (scalar : Scalar) : Option α :=
  match scalar.tag.bind Tag.localName? with
  | some tagged => if scalar.isVoid then values.find? (name · = tagged) else none
  | none => values.find? fun value => (name value).toList = scalar.text

/-- A value that may be missing. Plain text says so if it is empty or a word for
it; behind a tag only the word says so, and only if the tag does. -/
def optional? {α : Type} (read : Scalar → Option α) (scalar : Scalar) : Option (Option α) :=
  if scalar.style ≠ .plain then (read scalar).map some
  else
    match scalar.tag with
    | none => if scalar.isVoid then some none else (read scalar).map some
    | some tag =>
        if tag ≠ .null then (read scalar).map some
        else if isNullText scalar.text then some none
        else none

example : optional? number? ⟨.plain, none, "null".toList⟩ = some none := by decide

end PowerDisasm.Yaml.Scalar
