import PowerDisasm.Proofs.EncodedWords

/-! # Words for any operands

What the steps of an instruction read on a 64-bit processor with 32 vector
registers they read from bits of their own, and no key takes any of these bits
away: the few bits that a key looks at and a step reads have an entry for either
value. So each choice of operands, one for each step, is that of some word. -/

namespace PowerDisasm

/-! ## What a step may read -/

namespace InstructionForm

/-- Bit 1, which makes the target of a branch absolute, is in the word as in a
word that leads to the form. -/
def LeadsLike (model : Model) (form : InstructionForm) (word : Word) : Prop :=
  ∃ leading, model.tree.reach leading = .form form ∧ word.getLsbD 1 = leading.getLsbD 1

/-- What a step of the form reads from a word. Where the step reads a target,
only words with the absolute bit of the form count. -/
def ReadsAt (model : Model) (form : InstructionForm) (address : Address) (step : DecodeStep)
    (contribution : Contribution) (word : Word) : Prop :=
  (step.usesAddress = true → form.LeadsLike model word) ∧
    step.evaluate (model.site address) word = some contribution

def OperandRange (model : Model) (form : InstructionForm) (address : Address)
    (step : DecodeStep) (operand : Operand) : Prop :=
  ∃ word, form.ReadsAt model address step (.operand operand) word

/-- A record of the form may have the flag: any, if a step reads it, or else the
one that says whether the form always records. -/
def MaySet (form : InstructionForm) (flag : Bool) : Prop :=
  .recordFlag ∈ form.steps ∨ .recordFlag10 ∈ form.steps ∨
    (flag = true ↔ .alwaysRecords ∈ form.steps)

theorem blind_readsAt (model : Model) (form : InstructionForm) (address : Address) :
    Blind (form.ReadsAt model address) := by
  intro step contribution left right agree read
  refine ⟨?_, blind_evaluate _ step contribution left right agree read.2⟩
  intro isTarget
  rcases read.1 isTarget with ⟨leading, reached, sameBit⟩
  refine ⟨leading, reached, ?_⟩
  rw [← sameBit]
  cases step with
  | target field => exact (agree.right_of_or.getLsbD_eq (by decide)).symm
  | _ => cases isTarget

end InstructionForm

/-! ## Contributions for operands and a flag -/

namespace DecodeStep

def flagRead (flag : Bool) : DecodeStep → Bool
  | .alwaysRecords => true
  | _ => flag

theorem exists_evaluate_flag {step : DecodeStep} (isFlag : step.effect = .flag) (flag : Bool)
    (site : DecodeSite) :
    ∃ word, step.evaluate site word = some (.setsCr0 (step.flagRead flag)) := by
  -- One word for all flag steps: the record flag in bits 0, 6 and 10.
  refine ⟨if flag then 0x441 else 0, ?_⟩
  cases step <;> cases isFlag <;> cases flag <;> rfl

theorem evaluate_guard {step : DecodeStep} (isGuard : step.effect = .guard) {site : DecodeSite}
    (wide : site.wordWidth = .w64) (word : Word) :
    step.evaluate site word = some .nothing := by
  cases step <;> cases isGuard
  exact if_pos wide

theorem usesAddress_of_effect {step : DecodeStep} (other : step.effect ≠ .operand) :
    step.usesAddress = false := by
  cases step with
  | target field => exact absurd rfl other
  | _ => rfl

end DecodeStep

namespace InstructionForm

variable {model : Model} {form : InstructionForm} {address : Address}

theorem readsAt_of_effect {step : DecodeStep} (other : step.effect ≠ .operand)
    {contribution : Contribution} {word : Word}
    (read : step.evaluate (model.site address) word = some contribution) :
    form.ReadsAt model address step contribution word := by
  refine ⟨?_, read⟩
  intro isTarget
  rw [DecodeStep.usesAddress_of_effect other] at isTarget
  cases isTarget

theorem exists_contributions (wide : model.wordWidth = .w64) (flag : Bool)
    {steps : List DecodeStep} {operands : List Operand}
    (inRange : List.Forall₂ (form.OperandRange model address)
      (steps.filter fun step => step.effect = .operand) operands) :
    ∃ contributions,
      List.Forall₂ (fun step contribution => ∃ word,
        form.ReadsAt model address step contribution word) steps contributions ∧
      contributions.filterMap Contribution.operand? = operands ∧
      contributions.filterMap Contribution.flag? =
        (steps.filter fun step => step.effect = .flag).map (DecodeStep.flagRead flag) := by
  induction steps generalizing operands with
  | nil =>
      cases inRange
      exact ⟨[], .nil, rfl, rfl⟩
  | cons step rest induction =>
      cases kind : step.effect with
      | operand =>
          rw [List.filter_cons_of_pos (by simp [kind])] at inRange
          cases inRange with
          | @cons _ operand _ _ head tail =>
              rcases induction tail with ⟨contributions, read, sameOperands, sameFlags⟩
              refine ⟨.operand operand :: contributions, .cons head read, ?_, ?_⟩
              · exact congrArg (List.cons operand) sameOperands
              · rw [List.filter_cons_of_neg (by simp [kind])]
                exact sameFlags
      | flag =>
          rw [List.filter_cons_of_neg (by simp [kind])] at inRange
          rcases induction inRange with ⟨contributions, read, sameOperands, sameFlags⟩
          rcases DecodeStep.exists_evaluate_flag kind flag (model.site address) with ⟨word, head⟩
          have headRead : form.ReadsAt model address step _ word :=
            readsAt_of_effect (by simp [kind]) head
          refine ⟨.setsCr0 (step.flagRead flag) :: contributions, .cons ⟨word, headRead⟩ read,
            sameOperands, ?_⟩
          rw [List.filter_cons_of_pos (by simp [kind]), List.map_cons, ← sameFlags]
          rfl
      | guard =>
          rw [List.filter_cons_of_neg (by simp [kind])] at inRange
          rcases induction inRange with ⟨contributions, read, sameOperands, sameFlags⟩
          have head : step.evaluate (model.site address) 0 = some .nothing :=
            DecodeStep.evaluate_guard kind wide 0
          refine ⟨.nothing :: contributions, .cons ⟨0, readsAt_of_effect (by simp [kind]) head⟩ read,
            sameOperands, ?_⟩
          rw [List.filter_cons_of_neg (by simp [kind])]
          exact sameFlags

end InstructionForm

/-! ## The encodings of the base instructions -/

namespace Table

def flagSteps (form : InstructionForm) : List DecodeStep :=
  form.steps.filter fun step => step.effect = .flag

def hasTarget (form : InstructionForm) : Bool :=
  form.steps.any DecodeStep.usesAddress

/-- The encodings other than branches of which a step reads a bit that a key
looks at. -/
def twins : List (Encoding InstructionForm) :=
  withVector32.encodings.filter fun encoding =>
    sharedBits encoding ≠ 0 && !hasTarget encoding.form

theorem withVector32_independent :
    ∀ encoding ∈ withVector32.encodings, DecodeStep.Independent encoding.form.steps := by
  decide +kernel

theorem withVector32_flagSteps :
    ∀ encoding ∈ withVector32.encodings,
      flagSteps encoding.form ∈ [[], [.recordFlag], [.recordFlag10], [.alwaysRecords]] := by
  decide +kernel

theorem sharedBits_of_hasTarget :
    ∀ encoding ∈ withVector32.encodings, hasTarget encoding.form = true →
      sharedBits encoding = BitVec.twoPow 32 1 := by
  decide +kernel

/-- Each of the twins shares one bit, the top of a shift amount or the record
flag of a comparison, and has a counterpart for either value of it. -/
theorem twins_complete :
    ∀ encoding ∈ twins, ∃ index ∈ [1, 10], ∀ bit : Bool, ∃ other ∈ twins,
      other.form = encoding.form ∧ sharedBits other = BitVec.twoPow 32 index ∧
        other.pattern.value.getLsbD index = bit := by
  decide +kernel

/-- Among the encodings of a form is one that agrees with a given word on the
bits that have two uses. -/
theorem exists_agreeOn_sharedBits {encoding : Encoding InstructionForm}
    (inTable : encoding ∈ withVector32.encodings) {word : Word}
    (leads : hasTarget encoding.form = true → encoding.form.LeadsLike .ppc64 word) :
    ∃ other ∈ withVector32.encodings, other.form = encoding.form ∧
      AgreeOn (sharedBits other) word other.pattern.value := by
  by_cases isTarget : hasTarget encoding.form = true
  · rcases leads isTarget with ⟨leading, reached, sameBit⟩
    rcases Model.reach_tree_eq_form_iff.mp reached with ⟨pattern, holds, member⟩
    have shared : sharedBits ⟨pattern, encoding.form⟩ = BitVec.twoPow 32 1 :=
      sharedBits_of_hasTarget _ member isTarget
    have isShared : (sharedBits ⟨pattern, encoding.form⟩).getLsbD 1 = true := by
      rw [shared]
      decide
    have fixedBit : leading.getLsbD 1 = pattern.value.getLsbD 1 :=
      (agreeOn_value_of_matches holds).getLsbD_eq (getLsbD_mask_of_sharedBits isShared)
    refine ⟨⟨pattern, encoding.form⟩, member, rfl, ?_⟩
    rw [shared]
    exact AgreeOn.of_bit_eq (sameBit.trans fixedBit)
  · by_cases apart : sharedBits encoding = 0
    · refine ⟨encoding, inTable, rfl, ?_⟩
      rw [apart]
      exact BitVec.and_zero.trans BitVec.and_zero.symm
    · have isTwin : encoding ∈ twins := by
        rw [twins, List.mem_filter, Bool.and_eq_true, Bool.not_eq_true']
        exact ⟨inTable, decide_eq_true apart, Bool.not_eq_true _ ▸ isTarget⟩
      rcases twins_complete encoding isTwin with ⟨index, _, complete⟩
      rcases complete (word.getLsbD index) with ⟨other, otherTwin, sameForm, shared, bit⟩
      refine ⟨other, (List.mem_filter.mp otherTwin).1, sameForm, ?_⟩
      rw [shared]
      exact AgreeOn.of_bit_eq bit.symm

theorem getLast?_flagRead {form : InstructionForm} {flag : Bool}
    (known : flagSteps form ∈ [[], [.recordFlag], [.recordFlag10], [.alwaysRecords]])
    (may : form.MaySet flag) :
    ((flagSteps form).map (DecodeStep.flagRead flag)).getLast?.getD false = flag := by
  have inFlagSteps {step : DecodeStep} (isFlag : step.effect = .flag) :
      step ∈ form.steps ↔ step ∈ flagSteps form := by
    simp [flagSteps, isFlag]
  unfold InstructionForm.MaySet at may
  rw [inFlagSteps rfl, inFlagSteps rfl, inFlagSteps rfl] at may
  simp only [List.mem_cons, List.not_mem_nil, or_false] at known
  rcases known with none | record | record10 | always
  · simp only [none, List.not_mem_nil, false_or, iff_false, Bool.not_eq_true] at may
    rw [none, may]
    rfl
  · rw [record]
    rfl
  · rw [record10]
    rfl
  · simp [always] at may
    rw [always, may]
    rfl

end Table

/-- Any operands that the steps of a form can read one by one, with any flag that
the form may set, are those of a word with the mnemonic of the form. -/
theorem words_for_all_operands (form : InstructionForm) (member : form ∈ Model.ppc64.tree.forms)
    (address : Address) (operands : List Operand) (flag : Bool)
    (inRange : List.Forall₂ (form.OperandRange .ppc64 address)
      (form.steps.filter fun step => step.effect = .operand) operands)
    (may : form.MaySet flag) :
    ∃ word, ∀ order,
      let record := ((Processor.mk .ppc64 order).decode word address).instruction
      record.mnemonic = form.mnemonic ∧ record.operands = operands ∧ record.setsCr0 = flag := by
  rcases Model.exists_encoding member with ⟨encoding, inTable, rfl⟩
  rcases InstructionForm.exists_contributions rfl flag inRange with
    ⟨contributions, each, sameOperands, sameFlags⟩
  have separate := Table.withVector32_independent encoding inTable
  rcases (encoding.form.blind_readsAt .ppc64 address).exists_common_word separate each with
    ⟨word, all⟩
  rcases (List.forall₂_and_left _ _).mp all with ⟨leads, read⟩
  have targetLeads : Table.hasTarget encoding.form = true →
      encoding.form.LeadsLike .ppc64 word := by
    intro isTarget
    rcases List.any_eq_true.mp isTarget with ⟨step, stepMember, usesAddress⟩
    exact leads step stepMember usesAddress
  rcases Table.exists_agreeOn_sharedBits inTable targetLeads with
    ⟨other, otherInTable, sameForm, agree⟩
  rw [← sameForm] at read
  have inModel : other ∈ Model.ppc64.tree.encodings := otherInTable
  rcases StepsRead.exists_reaching inModel read agree with ⟨reaching, reached, reachingRead⟩
  refine ⟨reaching, ?_⟩
  intro order
  have shows := Processor.decode_shows reached reachingRead order
  refine ⟨shows.mnemonic.trans (congrArg InstructionForm.mnemonic sameForm),
    shows.operands.trans sameOperands, ?_⟩
  rw [shows.setsCr0, sameFlags]
  exact Table.getLast?_flagRead (Table.withVector32_flagSteps encoding inTable) may

def callAbsoluteOnCondition : InstructionForm :=
  ⟨.bcla, { transfer := true, conditional := true, call := true },
    [.unsigned5 21, .unsigned5 16, .target (.span 2 14)]⟩

theorem words_for_all_operands_callAbsolute :
    let operands : List Operand := [.immediate (.unsigned8 12), .immediate (.unsigned8 31),
      .target (.ofNat 0xFFFFFFFFFFFF8000)]
    (callAbsoluteOnCondition ∈ Model.ppc64.tree.forms ∧
      List.Forall₂ (callAbsoluteOnCondition.OperandRange .ppc64 (.ofNat 0x1000))
        (callAbsoluteOnCondition.steps.filter fun step => step.effect = .operand) operands ∧
      callAbsoluteOnCondition.MaySet false) ∧
    ∃ word, ∀ order,
      let record := ((Processor.mk .ppc64 order).decode word (.ofNat 0x1000)).instruction
      record.mnemonic = .bcla ∧ record.operands = operands ∧ record.setsCr0 = false := by
  intro operands
  have member : callAbsoluteOnCondition ∈ Model.ppc64.tree.forms := by decide +kernel
  have leads : callAbsoluteOnCondition.LeadsLike .ppc64 0x8002 :=
    ⟨0x40000003, by decide +kernel, by decide⟩
  have inRange : List.Forall₂ (callAbsoluteOnCondition.OperandRange .ppc64 (.ofNat 0x1000))
      [.unsigned5 21, .unsigned5 16, .target (.span 2 14)] operands :=
    .cons ⟨0x01800000, nofun, rfl⟩
      (.cons ⟨0x001F0000, nofun, rfl⟩
        (.cons ⟨0x8002, fun _ => leads, by decide⟩ .nil))
  have may : callAbsoluteOnCondition.MaySet false := .inr (.inr (by decide))
  exact ⟨⟨member, inRange, may⟩, words_for_all_operands _ member _ operands false inRange may⟩

end PowerDisasm
