import Mathlib.Algebra.BigOperators.Fin
import Mathlib.Data.FinEnum
import Mathlib.SetTheory.Cardinal.Finite
import PowerDisasm.Processor.Statistics
import PowerDisasm.Proofs.EncodedWords

/-! # Counting words by leaves

A pattern stands for as many words as it has choices for its open bits. Every
word has the pattern of one leaf of a walk and of no other, so the counts of the
leaves of one kind add up to the number of words that lead to such a leaf. -/

namespace PowerDisasm

/-! ## Words of a pattern -/

theorem prod_choices_mul (fixed : Nat → Bool) (width : Nat) :
    (∏ index : Fin width, if fixed index then 1 else 2) * 2 ^ (List.range width).countP fixed =
      2 ^ width := by
  induction width with
  | zero => rfl
  | succ width induction =>
      rw [Fin.prod_univ_castSucc, List.range_succ, List.countP_append, pow_succ, ← induction]
      cases isFixed : fixed width with
      | true => simp [isFixed, pow_succ, mul_assoc]
      | false => simp [isFixed, mul_right_comm]

namespace Pattern

def bitsEquiv : Word ≃ (Fin 32 → Bool) where
  toFun word index := word.getLsbD index
  invFun bits := (BitVec.iunfoldr (fun index (_ : Unit) => ((), bits index)) ()).2
  left_inv word := by
    apply BitVec.eq_of_getLsbD_eq
    intro index bound
    exact BitVec.iunfoldr_getLsbD (fun _ => ()) ⟨index, bound⟩ fun _ => rfl
  right_inv bits := by
    funext index
    exact BitVec.iunfoldr_getLsbD (fun _ => ()) index fun _ => rfl

theorem Proper.matches_iff {pattern : Pattern} (proper : pattern.Proper) (word : Word) :
    pattern.Matches word ↔ ∀ index : Fin 32, pattern.mask.getLsbD index = true →
      word.getLsbD index = pattern.value.getLsbD index := by
  constructor
  · intro holds index isFixed
    exact (agreeOn_value_of_matches holds).getLsbD_eq isFixed
  · intro bits
    have agree : AgreeOn pattern.mask word pattern.value := by
      apply AgreeOn.of_getLsbD_eq
      intro index isFixed
      exact bits ⟨index, BitVec.lt_of_getLsbD isFixed⟩ isFixed
    exact Eq.trans agree proper

theorem card_bit_choices (isFixed fixedTo : Bool) :
    Nat.card { bit : Bool // isFixed = true → bit = fixedTo } = if isFixed then 1 else 2 := by
  cases isFixed with
  | true => simp
  | false => simp

theorem setBits_le (word : Word) : setBits word ≤ 32 :=
  List.countP_le_length.trans_eq List.length_range

theorem Proper.card_matches {pattern : Pattern} (proper : pattern.Proper) :
    Nat.card { word // pattern.Matches word } = pattern.wordCount := by
  have asChoices : { word // pattern.Matches word } ≃
      ((index : Fin 32) → { bit : Bool // pattern.mask.getLsbD index = true →
        bit = pattern.value.getLsbD index }) :=
    (bitsEquiv.subtypeEquiv proper.matches_iff).trans Equiv.subtypePiEquivPi
  have choices := prod_choices_mul pattern.mask.getLsbD 32
  have counted := Nat.pow_sub_mul_pow 2 (setBits_le pattern.mask)
  rw [Nat.card_congr asChoices, Nat.card_pi, wordCount, Nat.one_shiftLeft]
  simp only [card_bit_choices]
  exact Nat.eq_of_mul_eq_mul_right (Nat.two_pow_pos _) (choices.trans counted.symm)

theorem card_words : Nat.card { _word : Word // True } = 2 ^ 32 := by
  have counted := proper_any.card_matches
  simp only [iff_true_intro (matches_any _)] at counted
  rw [counted]
  decide

end Pattern

/-! ## Words of leaves -/

section Leaves

variable {Form : Type}

def Visit.isLeafOf (kind : Terminal Form → Bool) (visit : Visit Form) : Bool :=
  match visit.finding with
  | .leaf terminal => kind terminal
  | .shadowed _ => false

def leafWords (kind : Terminal Form → Bool) (visits : List (Visit Form)) : Nat :=
  ((visits.filter (·.isLeafOf kind)).map (·.pattern.wordCount)).sum

/-- The counts of patterns add up to the number of words, each word counted as
often as it has one of the patterns. -/
theorem sum_wordCount_eq {visits : List (Visit Form)}
    (proper : ∀ visit ∈ visits, visit.pattern.Proper) :
    (visits.map (·.pattern.wordCount)).sum =
      ∑ word : Word, visits.countP fun visit => decide (visit.pattern.Matches word) := by
  induction visits with
  | nil => simp
  | cons visit rest induction =>
      rcases List.forall_mem_cons.mp proper with ⟨visitProper, restProper⟩
      have counted : visit.pattern.wordCount =
          ∑ word : Word, if visit.pattern.Matches word then 1 else 0 := by
        rw [← visitProper.card_matches, Nat.card_eq_fintype_card, Fintype.card_subtype,
          Finset.card_filter]
      simp only [List.map_cons, List.sum_cons, induction restProper, counted, List.countP_cons,
        Finset.sum_add_distrib, decide_eq_true_eq, Nat.add_comm]

namespace DecodeTree

variable {tree : DecodeTree Form}

theorem countP_leaves (separate : ∀ key ∈ tree.keys, Field.Separate key)
    (kind : Terminal Form → Bool) (word : Word) :
    (tree.walk.filter (·.isLeafOf kind)).countP (fun visit => decide (visit.pattern.Matches word)) =
      if kind (tree.reach word) then 1 else 0 := by
  rcases filter_walkFrom separate Pattern.proper_any (Pattern.matches_any word) with ⟨found, only⟩
  have covered (visit : Visit Form) :
      (decide (visit.pattern.Matches word) && visit.isLeafOf kind) =
        (visit.isLeafOf kind && visit.covers word) := by
    unfold Visit.covers Visit.isLeafOf Finding.isLeaf
    cases visit.finding with
    | leaf terminal => simp [Bool.and_comm]
    | shadowed form => simp
  simp only [List.countP_filter, covered]
  rw [← List.countP_filter, walk, only, List.countP_singleton]
  rfl

theorem leafWords_walk (separate : ∀ key ∈ tree.keys, Field.Separate key)
    (kind : Terminal Form → Bool) :
    leafWords kind tree.walk = Nat.card { word // kind (tree.reach word) = true } := by
  have proper : ∀ visit ∈ tree.walk.filter (·.isLeafOf kind), visit.pattern.Proper :=
    fun _ member => (walkFrom_narrows Pattern.proper_any (List.mem_filter.mp member).1).1
  rw [leafWords, sum_wordCount_eq proper, Nat.card_eq_fintype_card, Fintype.card_subtype,
    Finset.card_filter]
  exact Finset.sum_congr rfl fun word _ => countP_leaves separate kind word

end DecodeTree

end Leaves

/-! ## Words without an instruction -/

/-- The word is reported as one that no instruction has. -/
def Decoded.ReportsUnmapped (decoded : Decoded) : Prop :=
  ∃ diagnostic, decoded.diagnostic = some diagnostic ∧ diagnostic.kind = .unmapped

theorem DecodeState.reportsUnmapped_iff (state : DecodeState) (tree : DecodeTree InstructionForm)
    (word : Word) (address : Address) :
    (state.decode tree word address).1.ReportsUnmapped ↔ tree.reach word = .unmapped := by
  cases reached : tree.reach word with
  | form form =>
      refine iff_of_false ?_ (fun equal => by cases equal)
      rintro ⟨diagnostic, reported, kind⟩
      cases finished : run word form.steps (state.start address) with
      | ok final =>
          rcases run_eq_ok_iff.mp finished with ⟨contributions, read, _⟩
          rw [decode_of_stepsRead reached read] at reported
          cases reported
      | error step =>
          rw [decode_of_run_error reached finished] at reported
          cases reported
          cases kind
  | unmapped =>
      refine iff_of_true ?_ rfl
      simp only [decode, reached, decodeTerminal, refuse_start]
      exact ⟨_, rfl, rfl⟩
  | unsupported message =>
      refine iff_of_false ?_ (fun equal => by cases equal)
      rintro ⟨diagnostic, reported, kind⟩
      simp only [decode, reached, decodeTerminal, refuse_start] at reported
      cases reported
      cases kind

theorem TreeStatistics.unmappedWordCount_eq (visits : List (Visit InstructionForm)) :
    unmappedWordCount visits =
      leafWords (fun terminal => decide (terminal = .unmapped)) visits := by
  rw [unmappedWordCount, ← List.sum_eq_foldl, leafWords]
  induction visits with
  | nil => rfl
  | cons visit rest induction =>
      rw [List.map_cons, List.sum_cons, induction, List.filter_cons]
      rcases visit with ⟨pattern, terminal | form⟩
      · cases terminal <;> simp [Visit.isLeafOf]
      · simp [Visit.isLeafOf]

/-- The counts of all leaves of a walk add up to the number of all words, and the
counts of the leaves without a form to the number of words that are reported as
unmapped. So the statistics of a model have the true number of its unmapped
words, among which those of known but unsupported encodings are not. -/
theorem leafWords_eq_card :
    (∀ tree : DecodeTree InstructionForm, (∀ key ∈ tree.keys, Field.Separate key) →
      leafWords (fun _ => true) tree.walk = 2 ^ 32 ∧
      ∀ state address, leafWords (fun terminal => decide (terminal = .unmapped)) tree.walk =
        Nat.card { word // (DecodeState.decode state tree word address).1.ReportsUnmapped }) ∧
    ∀ model : Model,
      model.statistics.unmappedWords = Nat.card { word // model.tree.reach word = .unmapped } ∧
      ∀ order address, model.statistics.unmappedWords =
        Nat.card { word // ((Processor.mk model order).decode word address).ReportsUnmapped } := by
  have unmapped (tree : DecodeTree InstructionForm)
      (separate : ∀ key ∈ tree.keys, Field.Separate key) :
      leafWords (fun terminal => decide (terminal = .unmapped)) tree.walk =
        Nat.card { word // tree.reach word = .unmapped } := by
    simp only [DecodeTree.leafWords_walk separate, decide_eq_true_eq]
  have ofModel (model : Model) : model.statistics.unmappedWords =
      Nat.card { word // model.tree.reach word = .unmapped } :=
    (TreeStatistics.unmappedWordCount_eq _).trans (unmapped _ model.tree_keys_separate)
  refine ⟨fun tree separate => ⟨?_, fun state address => ?_⟩,
    fun model => ⟨ofModel model, fun order address => ?_⟩⟩
  · simp only [DecodeTree.leafWords_walk separate, Pattern.card_words]
  · simp only [unmapped tree separate, DecodeState.reportsUnmapped_iff]
  · simp only [ofModel, Processor.decode, DecodeState.reportsUnmapped_iff]
    rfl

def repeatedBit : DecodeTree InstructionForm :=
  .sparse [.span 30 2] [(1, .form ⟨.sync, { linear := true }, []⟩)]
    (.dense [.bit 31] [.invalid, .form ⟨.isync, { linear := true }, []⟩])

theorem leafWords_eq_card_repeatedBit :
    (∀ key ∈ repeatedBit.keys, Field.Separate key) ∧
    leafWords (fun _ => true) repeatedBit.walk = 2 ^ 32 ∧
    Nat.card { word // (DecodeState.decode (.initial .ppc32 .big) repeatedBit word
      (.ofNat 0)).1.ReportsUnmapped } = 2 ^ 30 := by
  have separate : ∀ key ∈ repeatedBit.keys, Field.Separate key := by decide
  have counted : leafWords (fun terminal => decide (terminal = .unmapped)) repeatedBit.walk =
      2 ^ 30 := by decide
  rcases leafWords_eq_card.1 repeatedBit separate with ⟨all, unmapped⟩
  exact ⟨separate, all, (unmapped _ _).symm.trans counted⟩

end PowerDisasm
