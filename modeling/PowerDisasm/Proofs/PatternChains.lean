import PowerDisasm.Proofs.WordCounts

/-! # Patterns refined again and again

A pattern that starts without fixed bits and takes over one constraint after the
other has just the words that meet them all, and there is such a pattern as long
as there is such a word. Since a proper pattern is determined by its words, the
order of the constraints makes no difference. -/

namespace PowerDisasm

structure BitConstraint where
  mask : Word
  value : Word
deriving DecidableEq

namespace BitConstraint

def Holds (constraint : BitConstraint) (word : Word) : Prop :=
  word &&& constraint.mask = constraint.value &&& constraint.mask

instance (constraint : BitConstraint) (word : Word) : Decidable (constraint.Holds word) :=
  inferInstanceAs (Decidable (_ = _))

end BitConstraint

namespace Pattern

variable {pattern refined left right : Pattern} {constraints : List BitConstraint}

/-! ## The words of a pattern determine it -/

theorem Proper.matches_laid (proper : pattern.Proper) (word : Word) :
    pattern.Matches (overlay pattern.value (~~~pattern.mask) word) := by
  apply matches_overlay proper.matches_value
  rw [BitVec.and_not_self]
  exact BitVec.and_zero.trans BitVec.and_zero.symm

theorem Proper.isFixed_of_imp (proper : right.Proper)
    (within : ∀ word, right.Matches word → left.Matches word) {index : Nat}
    (isFixed : left.mask.getLsbD index = true) : right.mask.getLsbD index = true := by
  by_contra notFixed
  have inWord := BitVec.lt_of_getLsbD isFixed
  have isOpen : (~~~right.mask).getLsbD index = true := by
    rw [BitVec.getLsbD_not, Bool.eq_false_of_not_eq_true notFixed, decide_eq_true inWord]
    rfl
  have fixedTo (word : Word) : word.getLsbD index = left.value.getLsbD index := by
    have laid := within _ (proper.matches_laid word)
    have bit := (agreeOn_value_of_matches laid).getLsbD_eq isFixed
    rwa [getLsbD_overlay, if_pos isOpen] at bit
  have same : (0#32).getLsbD index = (BitVec.allOnes 32).getLsbD index :=
    (fixedTo _).trans (fixedTo _).symm
  rw [BitVec.getLsbD_zero, BitVec.getLsbD_allOnes, decide_eq_true inWord] at same
  cases same

theorem Proper.eq_of_matches_iff (leftProper : left.Proper) (rightProper : right.Proper)
    (same : ∀ word, left.Matches word ↔ right.Matches word) : left = right := by
  have sameMask : left.mask = right.mask := by
    apply BitVec.eq_of_getLsbD_eq
    intro index _
    rw [Bool.eq_iff_iff]
    exact ⟨rightProper.isFixed_of_imp fun word => (same word).mpr,
      leftProper.isFixed_of_imp fun word => (same word).mp⟩
  have sameValue : left.value = right.value := by
    have holds : left.value &&& right.mask = right.value := (same _).mp leftProper.matches_value
    rw [← holds, ← sameMask]
    exact leftProper.symm
  cases left
  cases right
  cases sameMask
  cases sameValue
  rfl

/-! ## Chains of constraints -/

/-- The pattern with all constraints taken over in turn, unless one contradicts
those before it. -/
def refineEach? (pattern : Pattern) (constraints : List BitConstraint) : Option Pattern :=
  constraints.foldlM (fun pattern constraint => pattern.refine? constraint.mask constraint.value)
    pattern

theorem refineEach?_cons (pattern : Pattern) (constraint : BitConstraint)
    (rest : List BitConstraint) :
    pattern.refineEach? (constraint :: rest) =
      (pattern.refine? constraint.mask constraint.value).bind (·.refineEach? rest) :=
  List.foldlM_cons

theorem Proper.refineEach? (proper : pattern.Proper)
    (refines : pattern.refineEach? constraints = some refined) :
    refined.Proper ∧ ∀ word, refined.Matches word ↔
      pattern.Matches word ∧ ∀ constraint ∈ constraints, constraint.Holds word := by
  induction constraints generalizing pattern with
  | nil =>
      cases refines
      exact ⟨proper, fun word => by simp⟩
  | cons constraint rest induction =>
      rw [refineEach?_cons, Option.bind_eq_some_iff] at refines
      rcases refines with ⟨next, first, others⟩
      rcases induction (proper.refine? first) others with ⟨refinedProper, words⟩
      refine ⟨refinedProper, ?_⟩
      intro word
      rw [words, proper.matches_refine? first, List.forall_mem_cons, and_assoc]
      exact Iff.rfl

theorem exists_refineEach? (proper : pattern.Proper) {word : Word} (holds : pattern.Matches word)
    (meets : ∀ constraint ∈ constraints, constraint.Holds word) :
    ∃ refined, pattern.refineEach? constraints = some refined := by
  induction constraints generalizing pattern with
  | nil => exact ⟨pattern, rfl⟩
  | cons constraint rest induction =>
      rcases List.forall_mem_cons.mp meets with ⟨first, others⟩
      rcases exists_refine? holds first with ⟨next, refines⟩
      have nextHolds := (proper.matches_refine? refines word).mpr ⟨holds, first⟩
      rcases induction (proper.refine? refines) nextHolds others with ⟨refined, chained⟩
      refine ⟨refined, ?_⟩
      rw [refineEach?_cons, refines]
      exact chained

theorem any_refineEach?_eq_some_iff :
    any.refineEach? constraints = some refined ↔
      refined.Proper ∧ ∀ word, refined.Matches word ↔
        ∀ constraint ∈ constraints, constraint.Holds word := by
  have wordsOf {found : Pattern} (chained : any.refineEach? constraints = some found) :
      found.Proper ∧ ∀ word, found.Matches word ↔
        ∀ constraint ∈ constraints, constraint.Holds word := by
    rcases proper_any.refineEach? chained with ⟨proper, words⟩
    exact ⟨proper, fun word => (words word).trans (and_iff_right (matches_any word))⟩
  refine ⟨wordsOf, ?_⟩
  rintro ⟨proper, words⟩
  have meets := (words _).mp proper.matches_value
  rcases exists_refineEach? proper_any (matches_any _) meets with ⟨found, chained⟩
  rcases wordsOf chained with ⟨foundProper, foundWords⟩
  rw [chained, foundProper.eq_of_matches_iff proper fun word =>
    (foundWords word).trans (words word).symm]

/-- A chain of constraints succeeds exactly if a word meets them all, and it then
leads to a pattern whose words are those that do, as many as the pattern counts,
and whose value has no bit outside the mask. Constraints in any other order lead
to the same. -/
theorem refinementChain_intersects (constraints : List BitConstraint) :
    ((∃ refined, any.refineEach? constraints = some refined) ↔
        ∃ word, ∀ constraint ∈ constraints, constraint.Holds word) ∧
      (∀ refined, any.refineEach? constraints = some refined →
        (∀ word, refined.Matches word ↔ ∀ constraint ∈ constraints, constraint.Holds word) ∧
        refined.wordCount =
          Nat.card { word // ∀ constraint ∈ constraints, constraint.Holds word } ∧
        refined.value &&& ~~~refined.mask = 0) ∧
      ∀ others, others.Perm constraints →
        any.refineEach? others = any.refineEach? constraints := by
  refine ⟨⟨?_, ?_⟩, ?_, ?_⟩
  · rintro ⟨refined, chained⟩
    rcases any_refineEach?_eq_some_iff.mp chained with ⟨proper, words⟩
    exact ⟨refined.value, (words _).mp proper.matches_value⟩
  · rintro ⟨word, meets⟩
    exact exists_refineEach? proper_any (matches_any word) meets
  · intro refined chained
    rcases any_refineEach?_eq_some_iff.mp chained with ⟨proper, words⟩
    refine ⟨words, ?_, ?_⟩
    · rw [← proper.card_matches]
      exact Nat.card_congr (Equiv.subtypeEquivRight words)
    · have inMask : refined.value &&& refined.mask = refined.value := proper
      rw [← inMask, BitVec.and_assoc, BitVec.and_not_self]
      exact BitVec.and_zero
  · intro others reordered
    apply Option.ext
    intro refined
    rw [any_refineEach?_eq_some_iff, any_refineEach?_eq_some_iff]
    simp only [reordered.mem_iff]

/-- The opcodes of an addition, and a bit of them once more. -/
theorem refinementChain_intersects_addition :
    let constraints : List BitConstraint :=
      [⟨0xFC000000, 0x7C000000⟩, ⟨0x000007FF, 0x00000214⟩, ⟨0x80000000, 0x7FFFFFFF⟩]
    let addition : Pattern := ⟨0xFC0007FF, 0x7C000214⟩
    any.refineEach? constraints = some addition ∧
      constraints.reverse.Perm constraints ∧
      Nat.card { word // ∀ constraint ∈ constraints, constraint.Holds word } = 2 ^ 15 ∧
      any.refineEach? constraints.reverse = some addition := by
  intro constraints addition
  have chained : any.refineEach? constraints = some addition := by decide
  rcases refinementChain_intersects constraints with ⟨_, only, reordered⟩
  rcases only addition chained with ⟨_, count, _⟩
  have counted : addition.wordCount = 2 ^ 15 := by decide
  have sameBits := constraints.reverse_perm
  exact ⟨chained, sameBits, count.symm.trans counted, (reordered _ sameBits).trans chained⟩

end Pattern

end PowerDisasm
