import PowerDisasm.Proofs.DecodeOutcome

/-! # Forms put together from steps

A step may be taken by itself, with a state in which nothing was read yet. What
a whole form comes to is told here by what its steps come to alone: if each of
them accepts the word, the record has their operands in order and the flag that
was written last; otherwise the first step that rejects the word is reported. -/

namespace PowerDisasm

/-! ## The effect of a step -/

def Contribution.effect : Contribution → StepEffect
  | .operand _ => .operand
  | .setsCr0 _ => .flag
  | .nothing => .guard

theorem Contribution.isSome_operand? (contribution : Contribution) :
    contribution.operand?.isSome = true ↔ contribution.effect = .operand := by
  cases contribution <;> simp [operand?, effect]

theorem Contribution.isSome_flag? (contribution : Contribution) :
    contribution.flag?.isSome = true ↔ contribution.effect = .flag := by
  cases contribution <;> simp [flag?, effect]

theorem DecodeStep.effect_of_evaluate {site : DecodeSite} {word : Word} {step : DecodeStep}
    {contribution : Contribution} (read : step.evaluate site word = some contribution) :
    contribution.effect = step.effect := by
  cases step with
  | floatingPair _ | alignedMemory | only64 =>
      rcases Option.ite_none_right_eq_some.mp read with ⟨_, contributed⟩
      cases contributed
      rfl
  | _ =>
      cases read
      rfl

theorem StepsRead.forall₂_filter {Part : Type} {part? : Contribution → Option Part}
    {kind : StepEffect}
    (ofKind : ∀ contribution, (part? contribution).isSome = true ↔ contribution.effect = kind)
    {site : DecodeSite} {word : Word} {steps : List DecodeStep}
    {contributions : List Contribution} (read : StepsRead site word steps contributions) :
    List.Forall₂
      (fun step part => ∃ contribution,
        step.evaluate site word = some contribution ∧ part? contribution = some part)
      (steps.filter fun step => step.effect = kind) (contributions.filterMap part?) := by
  induction read with
  | nil => exact .nil
  | @cons step contribution rest others head _ induction =>
      have sameEffect := DecodeStep.effect_of_evaluate head
      cases found : part? contribution with
      | none =>
          have otherKind : ¬ step.effect = kind := by
            rw [← sameEffect, ← ofKind, found]
            exact Bool.false_ne_true
          rw [List.filter_cons_of_neg (by simpa using otherKind), List.filterMap_cons_none found]
          exact induction
      | some part =>
          have isKind : step.effect = kind := by
            rw [← sameEffect, ← ofKind, found]
            rfl
          rw [List.filter_cons_of_pos (by simpa using isKind), List.filterMap_cons_some found]
          exact .cons ⟨contribution, head, found⟩ induction

namespace DecodeState

/-! ## Steps by themselves -/

def accepts (state : DecodeState) (word : Word) (step : DecodeStep) : Bool :=
  (state.takeStep? word step).isSome

theorem accepts_eq (state : DecodeState) (word : Word) (step : DecodeStep) :
    state.accepts word step = (step.evaluate state.site word).isSome :=
  Option.isSome_map

/-- A run stops at the first step that does not accept the word by itself. -/
theorem run_eq_error_iff {word : Word} {steps : List DecodeStep} {state : DecodeState}
    {rejecting : DecodeStep} :
    run word steps state = .error rejecting ↔
      (steps.find? fun step => !state.accepts word step) = some rejecting := by
  induction steps generalizing state with
  | nil => simp [run]
  | cons step rest induction =>
      rw [run, takeStep?]
      cases evaluated : step.evaluate state.site word with
      | none =>
          have rejected : state.accepts word step = false := by
            rw [accepts_eq, evaluated]
            rfl
          simp [rejected]
      | some contribution =>
          have accepted : state.accepts word step = true := by
            rw [accepts_eq, evaluated]
            rfl
          have sameChecks : (state.add contribution).accepts word = state.accepts word := by
            funext other
            rw [accepts_eq, accepts_eq, add_site]
          rw [Option.map_some, induction, sameChecks]
          simp [accepted]

theorem takeStep?_of_evaluate {state : DecodeState} {word : Word} {step : DecodeStep}
    {contribution : Contribution} (evaluated : step.evaluate state.site word = some contribution) :
    state.takeStep? word step = some (state.add contribution) := by
  rw [takeStep?, evaluated, Option.map_some]

/-! ## Whole forms -/

/-- The record and the silence of a form whose steps, taken alone with a fresh
state, give the operands and the flag. -/
structure Composes (fresh : DecodeState) (word : Word) (form : InstructionForm)
    (decoded : Decoded) : Prop where
  mnemonic_eq : decoded.instruction.mnemonic = form.mnemonic
  tags_eq : decoded.instruction.tags =
    if word = 0 then form.tags.union { zero := true } else form.tags
  address_eq : decoded.instruction.address = fresh.site.address
  length_eq : decoded.instruction.length = Instruction.encodedLength
  operands_alone : List.Forall₂
    (fun step operand => ∃ alone,
      fresh.takeStep? word step = some alone ∧ alone.operands = [operand])
    (form.steps.filter fun step => step.effect = .operand) decoded.instruction.operands
  operands_length : decoded.instruction.operands.length = form.operandCount
  setsCr0_alone :
    match (form.steps.filter fun step => step.effect = .flag).getLast? with
    | some step => ∃ alone,
        fresh.takeStep? word step = some alone ∧ alone.setsCr0 = decoded.instruction.setsCr0
    | none => decoded.instruction.setsCr0 = false
  diagnostic_eq : decoded.diagnostic = none

/-- The illegal record, and one diagnostic that names the first step that
rejects the word. -/
structure Rejects (fresh : DecodeState) (word : Word) (form : InstructionForm)
    (decoded : Decoded) : Prop where
  instruction_eq : decoded.instruction = markZero word (.illegal fresh.site.address)
  diagnostic_eq : ∃ step,
    (form.steps.find? fun step => !fresh.accepts word step) = some step ∧
      decoded.diagnostic = some ⟨"PPCDis", .rejected, fresh.site.address,
        fresh.order.toBytes word, form.mnemonic.name ++ " rejected by " ++ step.name⟩

theorem operands_alone_of_stepsRead {fresh : DecodeState} (empty : fresh.operands = [])
    {word : Word} {steps : List DecodeStep} {contributions : List Contribution}
    (read : StepsRead fresh.site word steps contributions) :
    List.Forall₂
      (fun step operand => ∃ alone,
        fresh.takeStep? word step = some alone ∧ alone.operands = [operand])
      (steps.filter fun step => step.effect = .operand)
      (contributions.filterMap Contribution.operand?) := by
  apply (read.forall₂_filter Contribution.isSome_operand?).imp
  rintro step operand ⟨contribution, evaluated, isOperand⟩
  refine ⟨_, takeStep?_of_evaluate evaluated, ?_⟩
  rw [add_eq, isOperand, empty]
  rfl

theorem setsCr0_alone_of_stepsRead {fresh : DecodeState} {word : Word}
    {steps : List DecodeStep} {contributions : List Contribution}
    (read : StepsRead fresh.site word steps contributions) :
    match (steps.filter fun step => step.effect = .flag).getLast? with
    | some step => ∃ alone, fresh.takeStep? word step = some alone ∧
        alone.setsCr0 = (contributions.filterMap Contribution.flag?).getLast?.getD false
    | none => (contributions.filterMap Contribution.flag?).getLast?.getD false = false := by
  -- Read from the back, the last flag step and the last flag stand in front.
  have written := List.forall₂_reverse_iff.mpr (read.forall₂_filter Contribution.isSome_flag?)
  rw [List.getLast?_eq_head?_reverse, List.getLast?_eq_head?_reverse]
  generalize (steps.filter fun step => step.effect = .flag).reverse = flagSteps at written ⊢
  generalize (contributions.filterMap Contribution.flag?).reverse = flags at written ⊢
  cases written with
  | nil => rfl
  | cons head _ =>
      rcases head with ⟨contribution, evaluated, isFlag⟩
      refine ⟨_, takeStep?_of_evaluate evaluated, ?_⟩
      rw [add_eq, isFlag]
      rfl

theorem composes_of_stepsRead {fresh : DecodeState} (empty : fresh.operands = []) {word : Word}
    {form : InstructionForm} {contributions : List Contribution}
    (read : StepsRead fresh.site word form.steps contributions) :
    fresh.Composes word form
      ⟨markZero word (acceptedRecord form contributions fresh.site.address), none⟩ := by
  have alone := operands_alone_of_stepsRead empty read
  have counted : (contributions.filterMap Contribution.operand?).length = form.operandCount := by
    rw [← alone.length_eq, InstructionForm.operandCount, List.countP_eq_length_filter]
  rw [markZero_eq]
  exact {
    mnemonic_eq := rfl
    tags_eq := by
      unfold markZero
      split <;> rfl
    address_eq := rfl
    length_eq := rfl
    operands_alone := alone
    operands_length := counted
    setsCr0_alone := setsCr0_alone_of_stepsRead read
    diagnostic_eq := rfl }

theorem Composes.not_rejects {fresh : DecodeState} {word : Word} {form : InstructionForm}
    {decoded : Decoded} (composes : fresh.Composes word form decoded) :
    ¬ fresh.Rejects word form decoded := by
  intro rejects
  rcases rejects.diagnostic_eq with ⟨_, _, reported⟩
  rw [composes.diagnostic_eq] at reported
  cases reported

theorem Rejects.mnemonic_eq {fresh : DecodeState} {word : Word} {form : InstructionForm}
    {decoded : Decoded} (rejects : fresh.Rejects word form decoded) :
    decoded.instruction.mnemonic = .illegal := by
  rw [rejects.instruction_eq, markZero_eq]
  rfl

theorem accepts_of_stepsRead {fresh : DecodeState} {word : Word} {steps : List DecodeStep}
    {contributions : List Contribution}
    (read : StepsRead fresh.site word steps contributions) :
    ∀ step ∈ steps, fresh.accepts word step = true := by
  intro step member
  rw [accepts_eq]
  exact exists_stepsRead_iff.mp ⟨contributions, read⟩ step member

theorem composes_or_rejects (model : Model) (order : ByteOrder) (form : InstructionForm)
    (word : Word) (address : Address) :
    let fresh := (initial model order).start address
    let decoded := ((initial model order).decode (.form form) word address).1
    ((∀ step ∈ form.steps, fresh.accepts word step = true) ∧
        fresh.Composes word form decoded) ∨
      ((∃ step ∈ form.steps, fresh.accepts word step = false) ∧
        fresh.Rejects word form decoded) := by
  intro fresh decoded
  cases finished : run word form.steps fresh with
  | ok final =>
      rcases run_eq_ok_iff.mp finished with ⟨contributions, read, _⟩
      have outcome : decoded =
          ⟨markZero word (acceptedRecord form contributions address), none⟩ :=
        congrArg Prod.fst (decode_of_stepsRead rfl read)
      rw [outcome]
      exact .inl ⟨accepts_of_stepsRead read, composes_of_stepsRead rfl read⟩
  | error step =>
      have first := run_eq_error_iff.mp finished
      have outcome : decoded = ⟨markZero word (.illegal address),
          some ⟨decoderName, .rejected, address, order.toBytes word,
            form.mnemonic.name ++ " rejected by " ++ step.name⟩⟩ :=
        congrArg Prod.fst (decode_of_run_error rfl finished)
      have rejected : fresh.accepts word step = false := by
        simpa using List.find?_some first
      rw [outcome]
      exact .inr ⟨⟨step, List.mem_of_find?_eq_some first, rejected⟩, rfl, step, first, rfl⟩

/-- A form is decoded to the sum of what its steps come to by themselves. The
record has the mnemonic of the form in no other case, unless the form itself is
named like the illegal record. -/
theorem decode_form_composes (model : Model) (order : ByteOrder) (form : InstructionForm)
    (word : Word) (address : Address) :
    let fresh := (initial model order).start address
    let decoded := ((initial model order).decode (.form form) word address).1
    (fresh.Composes word form decoded ↔ ∀ step ∈ form.steps, fresh.accepts word step = true) ∧
      (fresh.Rejects word form decoded ↔
        ∃ step ∈ form.steps, fresh.accepts word step = false) ∧
      (decoded.instruction.mnemonic = form.mnemonic ↔
        form.mnemonic = .illegal ∨ ∀ step ∈ form.steps, fresh.accepts word step = true) := by
  intro fresh decoded
  have someRejects : (∃ step ∈ form.steps, fresh.accepts word step = false) ↔
      ¬ ∀ step ∈ form.steps, fresh.accepts word step = true := by
    simp
  rcases composes_or_rejects model order form word address with
    ⟨allAccept, composes⟩ | ⟨rejected, rejects⟩
  · have noneRejects : ¬ ∃ step ∈ form.steps, fresh.accepts word step = false :=
      fun rejected => someRejects.mp rejected allAccept
    exact ⟨iff_of_true composes allAccept, iff_of_false composes.not_rejects noneRejects,
      iff_of_true composes.mnemonic_eq (.inr allAccept)⟩
  · have notAll := someRejects.mp rejected
    have notComposes : ¬ fresh.Composes word form decoded :=
      fun composes => composes.not_rejects rejects
    refine ⟨iff_of_false notComposes notAll, iff_of_true rejects rejected, ?_⟩
    rw [rejects.mnemonic_eq, eq_comm]
    exact (or_iff_left notAll).symm

end DecodeState

end PowerDisasm
