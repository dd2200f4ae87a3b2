import PowerDisasm.Proofs.FieldLayout
import PowerDisasm.Proofs.PatternRefinement
import PowerDisasm.Proofs.TreeContents

/-! # A walk lists where searches end

A search follows the key values of one word, a walk follows all of them. If no
key has more than 32 bits, the walk reports the leaf that a word leads to with
a pattern of that word. If no key reads a bit twice, it reports no other leaf
with a pattern of the word, and no leaf more than once. -/

namespace PowerDisasm

variable {Form : Type}

def Finding.isLeaf : Finding Form → Bool
  | .leaf _ => true
  | .shadowed _ => false

def Visit.covers (visit : Visit Form) (word : Word) : Bool :=
  visit.finding.isLeaf && decide (visit.pattern.Matches word)

namespace DecodeTree

/-! ## Key values -/

theorem scatter_toNat_gather {key : List Field} (fits : Field.totalLength key ≤ 32)
    (word : Word) :
    Field.scatter key (BitVec.ofNat 32 (Field.gather key word).toNat) =
      word &&& Field.mask key := by
  rw [BitVec.ofNat_toNat, BitVec.setWidth_eq]
  exact Field.scatter_gather key word fits

theorem toNat_gather_of_agrees {key : List Field} (separate : Field.Separate key)
    {word : Word} {value : Nat} (bound : value < 2 ^ Field.totalLength key)
    (agrees : word &&& Field.mask key =
      Field.scatter key (BitVec.ofNat 32 value) &&& Field.mask key) :
    (Field.gather key word).toNat = value := by
  rw [Field.gather_congr key word _ agrees]
  exact Field.gather_scatter key separate value bound

theorem exists_refine?_gather {key : List Field} (fits : Field.totalLength key ≤ 32)
    {pattern : Pattern} (proper : pattern.Proper) {word : Word} (holds : pattern.Matches word) :
    ∃ refined, pattern.refine? (Field.mask key)
        (Field.scatter key (BitVec.ofNat 32 (Field.gather key word).toNat)) = some refined ∧
      refined.Proper ∧ refined.Matches word := by
  have agrees : word &&& Field.mask key =
      Field.scatter key (BitVec.ofNat 32 (Field.gather key word).toNat) &&& Field.mask key := by
    rw [scatter_toNat_gather fits, BitVec.and_assoc, BitVec.and_self]
  rcases Pattern.exists_refine? holds agrees with ⟨refined, refines⟩
  exact ⟨refined, refines, proper.refine? refines,
    (proper.matches_refine? refines word).mpr ⟨holds, agrees⟩⟩

/-! ## Patterns of visits -/

theorem walkFrom_narrows {tree : DecodeTree Form} {pattern : Pattern} {visit : Visit Form}
    (proper : pattern.Proper) (member : visit ∈ walkFrom pattern tree) :
    visit.pattern.Proper ∧ ∀ word, visit.pattern.Matches word → pattern.Matches word := by
  induction tree using branchInduction generalizing pattern with
  | leaf terminal =>
      rw [walkFrom_toTree, List.mem_singleton] at member
      subst member
      exact ⟨proper, fun _ holds => holds⟩
  | node tree key isNode induction =>
      rcases (mem_walkFrom_node isNode).mp member with ⟨value, _, below⟩
      unfold walkAt at below
      split at below
      next refined refines =>
        rcases induction value (proper.refine? refines) below with ⟨visitProper, narrows⟩
        exact ⟨visitProper, fun word holds =>
          ((proper.matches_refine? refines word).mp (narrows word holds)).1⟩
      next =>
        rw [(mem_shadows.mp below).1]
        exact ⟨proper, fun _ holds => holds⟩

/-! ## Every search ends at a leaf of the walk -/

theorem exists_leaf_mem_walkFrom {tree : DecodeTree Form}
    (fits : ∀ key ∈ tree.keys, Field.totalLength key ≤ 32) {pattern : Pattern}
    (proper : pattern.Proper) {word : Word} (holds : pattern.Matches word) :
    ∃ found : Pattern, found.Matches word ∧
      ⟨found, .leaf (tree.reach word)⟩ ∈ walkFrom pattern tree := by
  induction tree using branchInduction generalizing pattern with
  | leaf terminal => exact ⟨pattern, holds, by simp⟩
  | node tree key isNode induction =>
      rcases exists_refine?_gather (fits key (nodeKey_mem_keys isNode)) proper holds with
        ⟨refined, refines, refinedProper, refinedHolds⟩
      have branchFits : ∀ branchKey ∈ (tree.branchAt (Field.gather key word).toNat).keys,
          Field.totalLength branchKey ≤ 32 := fun branchKey member =>
        fits branchKey (keys_branchAt_subset tree _ member)
      rcases induction _ branchFits refinedProper refinedHolds with ⟨found, foundHolds, below⟩
      refine ⟨found, foundHolds, (mem_walkFrom_node isNode).mpr
        ⟨_, Field.toNat_gather_lt key word, ?_⟩⟩
      rw [walkAt, refines, reach_node isNode]
      exact below

/-! ## No other leaf has a pattern of the word -/

theorem flatMap_eq_of_only {α β : Type} {values : List α} {contribution : α → List β} {only : α}
    (nodup : values.Nodup) (member : only ∈ values)
    (others : ∀ value ∈ values, value ≠ only → contribution value = []) :
    values.flatMap contribution = contribution only := by
  induction values with
  | nil => cases member
  | cons head rest induction =>
      rcases List.nodup_cons.mp nodup with ⟨headNotMem, restNodup⟩
      rw [List.flatMap_cons]
      by_cases same : head = only
      · subst same
        have restEmpty : rest.flatMap contribution = [] := by
          rw [List.flatMap_eq_nil_iff]
          intro value inRest
          exact others value (List.mem_cons_of_mem _ inRest) fun equal =>
            headNotMem (equal ▸ inRest)
        rw [restEmpty, List.append_nil]
      · rw [others head List.mem_cons_self same, List.nil_append]
        apply induction restNodup
        · exact (List.mem_cons.mp member).resolve_left fun equal => same equal.symm
        · exact fun value inRest => others value (List.mem_cons_of_mem _ inRest)

theorem filter_walkAt_of_ne {tree : DecodeTree Form} {key : List Field}
    (separate : Field.Separate key) {pattern : Pattern} (proper : pattern.Proper) {word : Word}
    {value : Nat} (bound : value < 2 ^ Field.totalLength key)
    (different : value ≠ (Field.gather key word).toNat) :
    (walkAt pattern key tree value).filter (·.covers word) = [] := by
  rw [List.filter_eq_nil_iff]
  intro visit member covered
  simp only [Visit.covers, Bool.and_eq_true, decide_eq_true_eq] at covered
  unfold walkAt at member
  split at member
  next refined refines =>
    have refinedHolds := (walkFrom_narrows (proper.refine? refines) member).2 word covered.2
    have agrees := ((proper.matches_refine? refines word).mp refinedHolds).2
    exact different (toNat_gather_of_agrees separate bound agrees).symm
  next =>
    rcases mem_shadows.mp member with ⟨_, _, _, isShadowed⟩
    rw [isShadowed] at covered
    cases covered.1

theorem filter_walkFrom {tree : DecodeTree Form}
    (separate : ∀ key ∈ tree.keys, Field.Separate key) {pattern : Pattern}
    (proper : pattern.Proper) {word : Word} (holds : pattern.Matches word) :
    ∃ found, (walkFrom pattern tree).filter (·.covers word) =
      [⟨found, .leaf (tree.reach word)⟩] := by
  induction tree using branchInduction generalizing pattern with
  | leaf terminal =>
      refine ⟨pattern, ?_⟩
      simp [Visit.covers, Finding.isLeaf, holds]
  | node tree key isNode induction =>
      have keySeparate := separate key (nodeKey_mem_keys isNode)
      rcases exists_refine?_gather (Field.totalLength_le key keySeparate) proper holds with
        ⟨refined, refines, refinedProper, refinedHolds⟩
      have branchSeparate : ∀ branchKey ∈ (tree.branchAt (Field.gather key word).toNat).keys,
          Field.Separate branchKey := fun branchKey member =>
        separate branchKey (keys_branchAt_subset tree _ member)
      rcases induction _ branchSeparate refinedProper refinedHolds with ⟨found, only⟩
      refine ⟨found, ?_⟩
      rw [walkFrom_node isNode, List.filter_flatMap,
        flatMap_eq_of_only List.nodup_range (List.mem_range.mpr (Field.toNat_gather_lt key word)),
        walkAt, refines, reach_node isNode]
      · exact only
      · intro value member different
        exact filter_walkAt_of_ne keySeparate proper (List.mem_range.mp member) different

/-! ## Searches and walks of whole trees -/

/-- A word leads to a leaf exactly if the walk reports the leaf with a pattern
of the word. -/
theorem reach_eq_iff {tree : DecodeTree Form} (separate : ∀ key ∈ tree.keys, Field.Separate key)
    {word : Word} {terminal : Terminal Form} :
    tree.reach word = terminal ↔
      ∃ pattern : Pattern, pattern.Matches word ∧ ⟨pattern, .leaf terminal⟩ ∈ tree.walk := by
  rcases filter_walkFrom separate Pattern.proper_any (Pattern.matches_any word) with ⟨found, only⟩
  have covered (visit : Visit Form) :
      visit ∈ tree.walk ∧ visit.covers word = true ↔ visit = ⟨found, .leaf (tree.reach word)⟩ := by
    have same : visit ∈ (walkFrom Pattern.any tree).filter (·.covers word) ↔
        visit = ⟨found, .leaf (tree.reach word)⟩ := by
      rw [only, List.mem_singleton]
    rwa [List.mem_filter] at same
  constructor
  · rintro rfl
    rcases (covered _).mpr rfl with ⟨member, covers⟩
    exact ⟨found, by simpa [Visit.covers, Finding.isLeaf] using covers, member⟩
  · rintro ⟨pattern, holds, member⟩
    have same := (covered _).mp ⟨member, by simp [Visit.covers, Finding.isLeaf, holds]⟩
    cases same
    rfl

theorem exists_reach_eq_iff {tree : DecodeTree Form}
    (separate : ∀ key ∈ tree.keys, Field.Separate key) {terminal : Terminal Form} :
    (∃ word, tree.reach word = terminal) ↔
      ∃ pattern, ⟨pattern, .leaf terminal⟩ ∈ tree.walk := by
  constructor
  · rintro ⟨word, reached⟩
    rcases (reach_eq_iff separate).mp reached with ⟨pattern, _, member⟩
    exact ⟨pattern, member⟩
  · rintro ⟨pattern, member⟩
    have proper := (walkFrom_narrows Pattern.proper_any member).1
    exact ⟨pattern.value, (reach_eq_iff separate).mpr ⟨pattern, proper.matches_value, member⟩⟩

end DecodeTree

end PowerDisasm
