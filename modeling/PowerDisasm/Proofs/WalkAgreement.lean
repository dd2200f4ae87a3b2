import PowerDisasm.Proofs.LeafEnumeration
import PowerDisasm.Proofs.NodePlaces

/-! # Agreement of walk and search

A walk reports the leaf that a word leads to, and it reports a form as shadowed
with a pattern none of whose words leads to it. A fallback is walked once for
each key value without an entry, so that a form below a fallback may be reported
as shadowed for one value and as a leaf for another. Only then does some word
lead to a form that is reported as shadowed. -/

namespace PowerDisasm.DecodeTree

variable {Form : Type}

/-! ## Shadowed forms -/

/-- No word of the pattern with which a form is reported as shadowed leads to
the form. -/
theorem reach_ne_of_shadowed {tree : DecodeTree Form} {place : Place}
    (fits : ∀ key ∈ tree.keys, Field.totalLength key ≤ 32) {start pattern : Pattern}
    {node : Place × Form}
    (member : ⟨pattern, .shadowed node⟩ ∈ walkFrom start (tree.locate place)) {word : Word}
    (holds : pattern.Matches word) : (tree.locate place).reach word ≠ .form node := by
  induction tree using branchInduction generalizing place start with
  | leaf terminal => cases terminal <;> simp [Terminal.toTree, locate, walkFrom] at member
  | node tree key isNode induction =>
      have isLocatedNode := (nodeKey?_locate place tree).trans isNode
      intro reached
      rw [reach_node isLocatedNode] at reached
      have reachedPrefix := prefix_of_mem_forms_branchAt isNode (mem_forms_of_reach reached)
      rcases (mem_walkFrom_node isLocatedNode).mp member with ⟨value, _, below⟩
      unfold walkAt at below
      split at below
      next refined refines =>
        -- Either the search takes the turn of this value, or the place differs.
        have walkedPrefix := prefix_of_mem_forms_branchAt isNode
          (mem_forms_of_mem_walkFrom below rfl)
        have sameBranch := branchAt_eq_of_turnAt_eq (turn_unique walkedPrefix reachedPrefix)
        rw [branchAt_locate place isNode] at below reached
        rw [← sameBranch, ← turn_unique walkedPrefix reachedPrefix] at reached
        exact induction value
          (fun branchKey inBranch => fits branchKey (keys_branchAt_subset tree value inBranch))
          below reached
      next fails =>
        rcases mem_shadows.mp below with ⟨rfl, hidden, isHidden, found⟩
        cases found
        have hasEntry : tree.hasEntry value = true := by
          unfold hiddenAt at isHidden
          split at isHidden
          next listed => rwa [hasEntry_locate] at listed
          next => cases isHidden
        have hiddenPrefix := prefix_of_mem_forms_branchAt isNode
          (hiddenAt_subset_forms _ _ isHidden)
        have sameTurn := turn_unique reachedPrefix hiddenPrefix
        rw [turnAt_eq_entry_iff.mpr ⟨hasEntry, rfl⟩] at sameTurn
        have sameValue := (turnAt_eq_entry_iff.mp sameTurn).2
        refine Pattern.not_matches_of_refine?_eq_none fails ?_ holds
        rw [← sameValue, scatter_toNat_gather (fits key (nodeKey_mem_keys isNode)),
          BitVec.and_assoc, BitVec.and_self]

theorem fallback_mem_of_shadowed_of_leaf {tree : DecodeTree Form} {place : Place}
    {start shadowPattern leafPattern : Pattern} {node : Place × Form}
    (isShadowed : ⟨shadowPattern, .shadowed node⟩ ∈ walkFrom start (tree.locate place))
    (isLeaf : ⟨leafPattern, .leaf (.form node)⟩ ∈ walkFrom start (tree.locate place)) :
    .fallback ∈ node.1 := by
  induction tree using branchInduction generalizing place start with
  | leaf terminal => cases terminal <;> simp [Terminal.toTree, locate, walkFrom] at isShadowed
  | node tree key isNode induction =>
      have isLocatedNode := (nodeKey?_locate place tree).trans isNode
      rcases (mem_walkFrom_node isLocatedNode).mp isShadowed with ⟨shadowValue, _, shadowBelow⟩
      rcases (mem_walkFrom_node isLocatedNode).mp isLeaf with ⟨leafValue, _, leafBelow⟩
      have shadowPrefix : place ++ [tree.turnAt shadowValue] <+: node.1 := by
        unfold walkAt at shadowBelow
        split at shadowBelow
        · exact prefix_of_mem_forms_branchAt isNode (mem_forms_of_mem_walkFrom shadowBelow rfl)
        · rcases mem_shadows.mp shadowBelow with ⟨_, hidden, isHidden, found⟩
          cases found
          exact prefix_of_mem_forms_branchAt isNode (hiddenAt_subset_forms _ _ isHidden)
      unfold walkAt at leafBelow
      split at leafBelow
      next refined refines =>
        have leafPrefix := prefix_of_mem_forms_branchAt isNode
          (mem_forms_of_mem_walkFrom leafBelow rfl)
        have sameTurn := turn_unique shadowPrefix leafPrefix
        cases turn : tree.turnAt leafValue with
        | fallback =>
            rw [turn] at leafPrefix
            exact leafPrefix.subset (by simp)
        | entry value =>
            rw [turn] at sameTurn
            have sameValue : shadowValue = leafValue :=
              (turnAt_eq_entry_iff.mp sameTurn).2.trans (turnAt_eq_entry_iff.mp turn).2.symm
            subst sameValue
            rw [walkAt, refines] at shadowBelow
            rw [branchAt_locate place isNode] at shadowBelow leafBelow
            exact induction shadowValue shadowBelow leafBelow
      next =>
        rcases mem_shadows.mp leafBelow with ⟨_, _, _, found⟩
        cases found

/-! ## Agreement -/

/-- A walk of a tree with places is a walk of the tree, and so is a search. If no
key has more than 32 bits, the walk reports the leaf at which the search for a
word ends with a pattern of the word. If no key reads a bit twice, that is the
only leaf with a pattern of the word. A form that is reported as shadowed is not
found for the words of the pattern it is reported with; it is found for no word
at all exactly if it is not reported as a leaf besides, which forms outside of
fallbacks are not. -/
theorem walk_agrees_with_reach (tree : DecodeTree Form) :
    (tree.located.walk.map (Visit.map Prod.snd) = tree.walk ∧
      ∀ word, (tree.located.reach word).map Prod.snd = tree.reach word) ∧
    ((∀ key ∈ tree.keys, Field.totalLength key ≤ 32) →
      ∀ word, ∃ pattern : Pattern, pattern.Matches word ∧
        ⟨pattern, .leaf (tree.located.reach word)⟩ ∈ tree.located.walk) ∧
    ((∀ key ∈ tree.keys, Field.Separate key) →
      (∀ word, ∃ pattern, tree.located.walk.filter (·.covers word) =
        [⟨pattern, .leaf (tree.located.reach word)⟩]) ∧
      ∀ pattern node, ⟨pattern, .shadowed node⟩ ∈ tree.located.walk →
        (∀ word, pattern.Matches word → tree.located.reach word ≠ .form node) ∧
        ((∀ word, tree.located.reach word ≠ .form node) ↔
          ∀ other, ⟨other, .leaf (.form node)⟩ ∉ tree.located.walk) ∧
        (.fallback ∉ node.1 → ∀ word, tree.located.reach word ≠ .form node)) := by
  have sameKeys : tree.located.keys = tree.keys := keys_locate [] tree
  refine ⟨⟨walkFrom_locate [] tree .any, reach_locate [] tree⟩, ?_, ?_⟩
  · intro fits word
    rw [← sameKeys] at fits
    exact exists_leaf_mem_walkFrom fits Pattern.proper_any (Pattern.matches_any word)
  · intro separate
    have locatedSeparate := separate
    rw [← sameKeys] at locatedSeparate
    refine ⟨fun word => filter_walkFrom locatedSeparate Pattern.proper_any
      (Pattern.matches_any word), ?_⟩
    intro pattern node isShadowed
    have foundIff : (∃ word, tree.located.reach word = .form node) ↔
        ∃ other, ⟨other, .leaf (.form node)⟩ ∈ tree.located.walk :=
      exists_reach_eq_iff locatedSeparate
    refine ⟨fun word holds => reach_ne_of_shadowed
      (fun key member => Field.totalLength_le key (separate key member)) isShadowed holds, ?_, ?_⟩
    · rw [← not_exists, ← not_exists, foundIff]
    · intro outside word reached
      rcases foundIff.mp ⟨word, reached⟩ with ⟨leafPattern, isLeaf⟩
      exact outside (fallback_mem_of_shadowed_of_leaf isShadowed isLeaf)

def rereadEntry : DecodeTree Nat :=
  .dense [.bit 31] [.dense [.span 30 2] [.form 0, .form 1, .form 2]]

theorem walk_agrees_with_reach_rereadEntry :
    (∀ key ∈ rereadEntry.keys, Field.Separate key) ∧
    ⟨⟨0x80000000, 0⟩, .shadowed ([.entry 0, .entry 2], 2)⟩ ∈ rereadEntry.located.walk ∧
    (∀ word, ∃ pattern, rereadEntry.located.walk.filter (·.covers word) =
      [⟨pattern, .leaf (rereadEntry.located.reach word)⟩]) ∧
    ∀ word, rereadEntry.located.reach word ≠ .form ([.entry 0, .entry 2], 2) := by
  have separate : ∀ key ∈ rereadEntry.keys, Field.Separate key := by decide
  have isShadowed :
      ⟨⟨0x80000000, 0⟩, .shadowed ([.entry 0, .entry 2], 2)⟩ ∈ rereadEntry.located.walk := by
    decide
  rcases (walk_agrees_with_reach rereadEntry).2.2 separate with ⟨unique, shadowed⟩
  exact ⟨separate, isShadowed, unique, (shadowed _ _ isShadowed).2.2 (by decide)⟩

def rereadFallback : DecodeTree Nat :=
  .sparse [.bit 31] [] (.dense [.bit 31] [.form 0, .form 1])

/-- Below a fallback, a form to which a word leads may be reported as shadowed. -/
theorem shadowed_below_fallback_is_reached :
    DecodeTree.ofListed [.bit 31] (.dense [.bit 31] [.form 0, .form 1]) [] = .ok rereadFallback ∧
    (∀ key ∈ rereadFallback.keys, Field.Separate key) ∧
    ⟨⟨0x80000000, 0⟩, .shadowed ([.fallback, .entry 1], 1)⟩ ∈ rereadFallback.located.walk ∧
    rereadFallback.located.reach 0x80000000 = .form ([.fallback, .entry 1], 1) := by
  refine ⟨rfl, ?_, ?_, ?_⟩ <;> decide

end PowerDisasm.DecodeTree
