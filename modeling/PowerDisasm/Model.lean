import PowerDisasm.Text.Quoted

/-! # Processor models

The processors whose code can be decoded. They differ in the width of an
address, in their vector registers and in the special-purpose registers that
they name. -/

namespace PowerDisasm

inductive WordWidth where
  | w32
  | w64
deriving DecidableEq

namespace WordWidth

def bits : WordWidth → Nat
  | .w32 => 32
  | .w64 => 64

end WordWidth

inductive Model where
  | ppc32
  | ppc64
  /-- A 64-bit processor whose vector extension has 128 registers. -/
  | xenon
deriving DecidableEq

namespace Model

def all : List Model := [.ppc32, .ppc64, .xenon]

def name : Model → String
  | .ppc32 => "ppc32"
  | .ppc64 => "ppc64"
  | .xenon => "xenon"

def wordWidth : Model → WordWidth
  | .ppc32 => .w32
  | .ppc64 => .w64
  | .xenon => .w64

def hasVector128 : Model → Bool
  | .xenon => true
  | _ => false

def vectorBits (model : Model) : Nat :=
  if model.hasVector128 then 7 else 5

def hypervisorSpecials : List (Nat × String) :=
  [(304, "hsprg0"), (305, "hsprg1"), (310, "hdec"), (313, "hrmor"),
   (314, "hsrr0"), (315, "hsrr1"), (318, "lpcr"), (319, "lpidr")]

/-- The special-purpose registers that the model names beyond those of every
model. -/
def extraSpecials : Model → List (Nat × String)
  | .ppc32 => []
  | .ppc64 => hypervisorSpecials
  | .xenon => hypervisorSpecials ++ [(1012, "hid4"), (1017, "hid6")]

/-! ## Models given by name -/

structure Unknown where
  text : String
deriving DecidableEq

def Unknown.message (unknown : Unknown) : String :=
  "Unknown model " ++ Quoted.quote unknown.text ++ " (expected ppc32, ppc64 or xenon)"

def parse (text : String) : Except Unknown Model :=
  match all.find? fun model => model.name = text.map Char.toLower with
  | some model => .ok model
  | none => .error ⟨text⟩

example : parse "XENON" = .ok .xenon := by cbv
example : parse "ppc128" = .error ⟨"ppc128"⟩ := by cbv

end Model

end PowerDisasm
