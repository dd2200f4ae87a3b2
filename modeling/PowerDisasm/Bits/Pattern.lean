import PowerDisasm.Bits.Field

/-! # Patterns of fixed bits

A pattern fixes some bits of a word and leaves the others open. Adding further
fixed bits refines it, or fails where they contradict the bits fixed before. -/

namespace PowerDisasm

/-- The words whose bits under `mask` are those of `value`. -/
structure Pattern where
  mask : Word
  value : Word
deriving DecidableEq

namespace Pattern

def any : Pattern := ⟨0, 0⟩

def Matches (pattern : Pattern) (word : Word) : Prop :=
  word &&& pattern.mask = pattern.value

instance (pattern : Pattern) (word : Word) : Decidable (pattern.Matches word) :=
  inferInstanceAs (Decidable (_ = _))

theorem matches_any (word : Word) : any.Matches word :=
  BitVec.and_zero

def setBits (word : Word) : Nat :=
  (List.range 32).countP word.getLsbD

def wordCount (pattern : Pattern) : Nat :=
  1 <<< (32 - setBits pattern.mask)

example : wordCount any = 4294967296 := by decide

/-- The pattern with the bits of `value` under `mask` fixed as well, unless one
of them is fixed to the opposite already. -/
def refine? (pattern : Pattern) (mask value : Word) : Option Pattern :=
  if (pattern.value ^^^ value) &&& pattern.mask &&& mask = 0 then
    some ⟨pattern.mask ||| mask, pattern.value ||| (value &&& mask)⟩
  else
    none

example : refine? ⟨0xF, 0x3⟩ 0x18 0x8 = none := by decide
example : refine? ⟨0xF, 0x3⟩ 0x18 0x10 = some ⟨0x1F, 0x13⟩ := by decide

end Pattern

end PowerDisasm
