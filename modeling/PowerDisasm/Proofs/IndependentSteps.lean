import PowerDisasm.Proofs.DecodeOutcome
import PowerDisasm.Proofs.PatternRefinement
import PowerDisasm.Proofs.StepBits

/-! # Steps that read different bits

If no two steps of a form read a common bit, what each of them reads from a
word of its own is read by all of them from one word. The other bits of that
word are free, so that it can be given the pattern of an encoding as far as the
pattern does not contradict the bits that are read. -/

namespace PowerDisasm

/-! ## Laying one word over another -/

def overlay (base mask word : Word) : Word :=
  (base &&& ~~~mask) ||| (word &&& mask)

theorem getLsbD_overlay (base mask word : Word) (index : Nat) :
    (overlay base mask word).getLsbD index =
      if mask.getLsbD index then word.getLsbD index else base.getLsbD index := by
  by_cases inWord : index < 32
  · cases inMask : mask.getLsbD index <;>
      simp only [overlay, BitVec.getLsbD_or, BitVec.getLsbD_and, BitVec.getLsbD_not, inMask,
        inWord, decide_true, Bool.not_false, Bool.not_true, Bool.and_true, Bool.and_false,
        Bool.or_false, Bool.false_or, if_true, Bool.false_eq_true, if_false]
  · have outside := Nat.le_of_not_lt inWord
    rw [BitVec.getLsbD_of_ge _ _ outside, BitVec.getLsbD_of_ge mask _ outside,
      BitVec.getLsbD_of_ge base _ outside]
    rfl

theorem agreeOn_overlay (base mask word : Word) : AgreeOn mask word (overlay base mask word) := by
  apply AgreeOn.of_getLsbD_eq
  intro index inMask
  rw [getLsbD_overlay, if_pos inMask]

theorem agreeOn_overlay_of_disjoint {base mask word other : Word}
    (disjoint : mask &&& other = 0) : AgreeOn other base (overlay base mask word) := by
  apply AgreeOn.of_getLsbD_eq
  intro index inOther
  have clear : mask.getLsbD index = false := by
    have bit := congrArg (fun common => common.getLsbD index) disjoint
    simpa [inOther] using bit
  rw [getLsbD_overlay, clear]
  rfl

theorem matches_overlay {pattern : Pattern} {base mask word : Word}
    (holds : pattern.Matches base) (agree : AgreeOn (pattern.mask &&& mask) word base) :
    pattern.Matches (overlay base mask word) := by
  have same : AgreeOn pattern.mask (overlay base mask word) base := by
    apply AgreeOn.of_getLsbD_eq
    intro index inPattern
    rw [getLsbD_overlay]
    split
    next inMask =>
      exact agree.getLsbD_eq (by rw [BitVec.getLsbD_and, inPattern, inMask, Bool.and_self])
    next => rfl
  exact Eq.trans same holds

/-! ## Independent steps -/

namespace DecodeStep

def allBitsRead : List DecodeStep → Word
  | [] => 0
  | step :: rest => step.bitsRead ||| allBitsRead rest

def Independent : List DecodeStep → Prop
  | [] => True
  | step :: rest => step.bitsRead &&& allBitsRead rest = 0 ∧ Independent rest

instance Independent.decidable : (steps : List DecodeStep) → Decidable (Independent steps)
  | [] => .isTrue trivial
  | step :: rest =>
      have := Independent.decidable rest
      inferInstanceAs (Decidable (step.bitsRead &&& allBitsRead rest = 0 ∧ Independent rest))

end DecodeStep

section Finding

variable {Found : Type} {finds : DecodeStep → Found → Word → Prop}

/-- What a step finds in a word does not depend on bits that it does not read. -/
def Blind (finds : DecodeStep → Found → Word → Prop) : Prop :=
  ∀ step found left right, AgreeOn step.bitsRead left right →
    finds step found left → finds step found right

theorem Blind.forall₂_congr (blind : Blind finds) {left right : Word} {steps : List DecodeStep}
    {found : List Found} (all : List.Forall₂ (fun step one => finds step one left) steps found)
    (agree : AgreeOn (DecodeStep.allBitsRead steps) left right) :
    List.Forall₂ (fun step one => finds step one right) steps found := by
  induction all with
  | nil => exact .nil
  | cons head _ induction =>
      exact .cons (blind _ _ _ _ agree.left_of_or head) (induction agree.right_of_or)

/-- What independent steps find in words of their own they find in one word. -/
theorem Blind.exists_common_word (blind : Blind finds) {steps : List DecodeStep}
    {found : List Found} (independent : DecodeStep.Independent steps)
    (each : List.Forall₂ (fun step one => ∃ word, finds step one word) steps found) :
    ∃ word, List.Forall₂ (fun step one => finds step one word) steps found := by
  induction each with
  | nil => exact ⟨0, .nil⟩
  | @cons step one rest others head _ induction =>
      rcases head with ⟨headWord, headFound⟩
      rcases induction independent.2 with ⟨restWord, restFound⟩
      have agreeHead := agreeOn_overlay restWord step.bitsRead headWord
      have agreeRest : AgreeOn (DecodeStep.allBitsRead rest) restWord
          (overlay restWord step.bitsRead headWord) :=
        agreeOn_overlay_of_disjoint independent.1
      exact ⟨_, .cons (blind _ _ _ _ agreeHead headFound) (blind.forall₂_congr restFound agreeRest)⟩

end Finding

theorem blind_evaluate (site : DecodeSite) :
    Blind fun step contribution word => step.evaluate site word = some contribution := by
  intro step contribution left right agree read
  rw [← DecodeStep.evaluate_congr site agree]
  exact read

theorem StepsRead.congr {site : DecodeSite} {left right : Word} {steps : List DecodeStep}
    {contributions : List Contribution} (read : StepsRead site left steps contributions)
    (agree : AgreeOn (DecodeStep.allBitsRead steps) left right) :
    StepsRead site right steps contributions :=
  (blind_evaluate site).forall₂_congr read agree

theorem exists_stepsRead {site : DecodeSite} {steps : List DecodeStep}
    {contributions : List Contribution} (independent : DecodeStep.Independent steps)
    (each : List.Forall₂
      (fun step contribution => ∃ word, step.evaluate site word = some contribution)
      steps contributions) :
    ∃ word, StepsRead site word steps contributions :=
  (blind_evaluate site).exists_common_word independent each

theorem StepsRead.exists_matching {site : DecodeSite} {word : Word} {steps : List DecodeStep}
    {contributions : List Contribution} (read : StepsRead site word steps contributions)
    {pattern : Pattern} (proper : pattern.Proper)
    (agree : AgreeOn (pattern.mask &&& DecodeStep.allBitsRead steps) word pattern.value) :
    ∃ matching, pattern.Matches matching ∧ StepsRead site matching steps contributions :=
  ⟨overlay pattern.value (DecodeStep.allBitsRead steps) word,
    matches_overlay proper.matches_value agree,
    read.congr (agreeOn_overlay pattern.value _ word)⟩

end PowerDisasm
