import PowerDisasm.Bits.Pattern

/-! # Refining patterns

A pattern is proper if it gives a value only to the bits that it fixes. The
pattern without fixed bits is proper, and refining keeps a pattern proper. The
words of a refined pattern are those words of the pattern that have the added
bits, and refining fails only where there are none. -/

namespace PowerDisasm.Pattern

def Proper (pattern : Pattern) : Prop :=
  pattern.value &&& pattern.mask = pattern.value

instance (pattern : Pattern) : Decidable pattern.Proper :=
  inferInstanceAs (Decidable (_ = _))

theorem proper_any : any.Proper := BitVec.and_zero

theorem Proper.matches_value {pattern : Pattern} (proper : pattern.Proper) :
    pattern.Matches pattern.value :=
  proper

/-! ## One bit of a refinement -/

private theorem proper_bit : ∀ patternMask patternValue addedMask addedValue : Bool,
    (patternValue && patternMask) = patternValue →
      ((patternValue || addedValue && addedMask) && (patternMask || addedMask)) =
        (patternValue || addedValue && addedMask) := by
  decide

private theorem matches_bit : ∀ word patternMask patternValue addedMask addedValue : Bool,
    (patternValue && patternMask) = patternValue →
    ((patternValue ^^ addedValue) && patternMask && addedMask) = false →
      ((word && (patternMask || addedMask)) = (patternValue || addedValue && addedMask) ↔
        (word && patternMask) = patternValue ∧ (word && addedMask) = (addedValue && addedMask)) := by
  decide

private theorem agreement_bit : ∀ word patternMask patternValue addedMask addedValue : Bool,
    (word && patternMask) = patternValue →
    (word && addedMask) = (addedValue && addedMask) →
      ((patternValue ^^ addedValue) && patternMask && addedMask) = false := by
  decide

/-! ## Whole words -/

variable {pattern refined : Pattern} {mask value : Word}

theorem refine?_eq_some_iff :
    pattern.refine? mask value = some refined ↔
      (pattern.value ^^^ value) &&& pattern.mask &&& mask = 0 ∧
        ⟨pattern.mask ||| mask, pattern.value ||| (value &&& mask)⟩ = refined := by
  unfold refine?
  split <;> simp_all

theorem Proper.refine? (proper : pattern.Proper)
    (refines : pattern.refine? mask value = some refined) : refined.Proper := by
  rcases refine?_eq_some_iff.mp refines with ⟨_, rfl⟩
  apply BitVec.eq_of_getLsbD_eq
  intro index _
  have bit := congrArg (fun word => word.getLsbD index) proper
  simp only [BitVec.getLsbD_and, BitVec.getLsbD_or] at bit ⊢
  exact proper_bit _ _ _ _ bit

theorem Proper.matches_refine? (proper : pattern.Proper)
    (refines : pattern.refine? mask value = some refined) (word : Word) :
    refined.Matches word ↔ pattern.Matches word ∧ word &&& mask = value &&& mask := by
  rcases refine?_eq_some_iff.mp refines with ⟨consistent, rfl⟩
  have bitwise (index : Nat) :=
    matches_bit (word.getLsbD index) (pattern.mask.getLsbD index) (pattern.value.getLsbD index)
      (mask.getLsbD index) (value.getLsbD index)
      (by simpa using congrArg (fun word => word.getLsbD index) proper)
      (by simpa using congrArg (fun word => word.getLsbD index) consistent)
  simp only [Matches, BitVec.eq_of_getLsbD_eq_iff, BitVec.getLsbD_and, BitVec.getLsbD_or, bitwise]
  exact ⟨fun bits => ⟨fun index bound => (bits index bound).1,
      fun index bound => (bits index bound).2⟩,
    fun bits index bound => ⟨bits.1 index bound, bits.2 index bound⟩⟩

theorem exists_refine? {word : Word} (holds : pattern.Matches word)
    (agrees : word &&& mask = value &&& mask) :
    ∃ refined, pattern.refine? mask value = some refined := by
  refine ⟨_, refine?_eq_some_iff.mpr ⟨?_, rfl⟩⟩
  apply BitVec.eq_of_getLsbD_eq
  intro index _
  have holdsBit := congrArg (fun word => word.getLsbD index) holds
  have agreesBit := congrArg (fun word => word.getLsbD index) agrees
  simp only [BitVec.getLsbD_and] at holdsBit agreesBit
  simp only [BitVec.getLsbD_and, BitVec.getLsbD_xor]
  rw [agreement_bit _ _ _ _ _ holdsBit agreesBit]
  simp

theorem not_matches_of_refine?_eq_none (fails : pattern.refine? mask value = none) {word : Word}
    (agrees : word &&& mask = value &&& mask) : ¬ pattern.Matches word := by
  intro holds
  rcases exists_refine? holds agrees with ⟨refined, refines⟩
  rw [fails] at refines
  cases refines

end PowerDisasm.Pattern
