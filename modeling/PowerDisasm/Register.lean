import PowerDisasm.Text.Numeral

/-! # Registers

The registers that an instruction can name, each by its file and its number.
Only a special-purpose register may have a name of its own. -/

namespace PowerDisasm

inductive Register where
  | general (number : Nat)
  | floating (number : Nat)
  | vector (number : Nat)
  | condition (number : Nat)
  | special (number : Nat) (name : Option String)
deriving DecidableEq

namespace Register

def number : Register → Nat
  | .general number => number
  | .floating number => number
  | .vector number => number
  | .condition number => number
  | .special number _ => number

def name : Register → Option String
  | .special _ name => name
  | _ => none

def text : Register → String
  | .general number => "r" ++ Numeral.decimal number
  | .floating number => "f" ++ Numeral.decimal number
  | .vector number => "v" ++ Numeral.decimal number
  | .condition number => "cr" ++ Numeral.decimal number
  | .special _ (some name) => name
  | .special number none => "spr" ++ Numeral.decimal number

example : (special 8 (some "lr")).text = "lr" := rfl
example : (special 999 none).text = "spr999" := by decide

end Register

end PowerDisasm
