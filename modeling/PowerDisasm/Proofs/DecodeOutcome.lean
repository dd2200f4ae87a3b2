import Mathlib.Data.List.Forall2
import PowerDisasm.DecodeState

/-! # What decoding a word comes to

A word is either accepted, if it leads to a form all of whose steps read it, or
refused with one diagnostic. Both outcomes are told here from the word alone;
nothing that was decoded before has a part in them. -/

namespace PowerDisasm

namespace Contribution

def operand? : Contribution → Option Operand
  | .operand read => some read
  | _ => none

def flag? : Contribution → Option Bool
  | .setsCr0 flag => some flag
  | _ => none

end Contribution

def StepsRead (site : DecodeSite) (word : Word) (steps : List DecodeStep)
    (contributions : List Contribution) : Prop :=
  List.Forall₂ (fun step contribution => step.evaluate site word = some contribution)
    steps contributions

namespace DecodeState

/-! ## Running steps -/

def addAll (state : DecodeState) (contributions : List Contribution) : DecodeState :=
  contributions.foldl add state

theorem add_eq (state : DecodeState) (contribution : Contribution) :
    state.add contribution = { state with
      operands := state.operands ++ contribution.operand?.toList
      setsCr0 := contribution.flag?.getD state.setsCr0 } := by
  cases contribution <;> simp [add, Contribution.operand?, Contribution.flag?]

/-- The contributions of all steps: the operands in their order, and the flag
that was set last. -/
theorem addAll_eq (state : DecodeState) (contributions : List Contribution) :
    state.addAll contributions = { state with
      operands := state.operands ++ contributions.filterMap Contribution.operand?
      setsCr0 := (contributions.filterMap Contribution.flag?).getLast?.getD state.setsCr0 } := by
  induction contributions generalizing state with
  | nil => simp [addAll]
  | cons contribution rest induction =>
      have folded : state.addAll (contribution :: rest) = (state.add contribution).addAll rest :=
        rfl
      rw [folded, induction, add_eq]
      cases contribution with
      | operand read => simp [List.filterMap_cons, Contribution.operand?, Contribution.flag?]
      | setsCr0 flag =>
          simp [List.filterMap_cons, Contribution.operand?, Contribution.flag?, List.getLast?_cons]
      | nothing => simp [List.filterMap_cons, Contribution.operand?, Contribution.flag?]

@[simp] theorem add_site (state : DecodeState) (contribution : Contribution) :
    (state.add contribution).site = state.site := by
  rw [add_eq]

theorem run_eq_ok_iff {word : Word} {steps : List DecodeStep} {state final : DecodeState} :
    run word steps state = .ok final ↔
      ∃ contributions, StepsRead state.site word steps contributions ∧
        final = state.addAll contributions := by
  induction steps generalizing state with
  | nil =>
      constructor
      · intro finished
        cases finished
        exact ⟨[], .nil, rfl⟩
      · rintro ⟨contributions, read, rfl⟩
        cases read
        rfl
  | cons step rest induction =>
      rw [run, takeStep?]
      cases evaluated : step.evaluate state.site word with
      | none =>
          constructor
          · intro finished
            cases finished
          · rintro ⟨contributions, read, _⟩
            cases read with
            | cons head _ => simp [head] at evaluated
      | some contribution =>
          simp only [Option.map_some, induction, add_site]
          constructor
          · rintro ⟨contributions, read, rfl⟩
            exact ⟨contribution :: contributions, .cons evaluated read, rfl⟩
          · rintro ⟨contributions, read, rfl⟩
            cases read with
            | cons head tail =>
                rw [evaluated] at head
                cases head
                exact ⟨_, tail, rfl⟩

theorem exists_stepsRead_iff {site : DecodeSite} {word : Word} {steps : List DecodeStep} :
    (∃ contributions, StepsRead site word steps contributions) ↔
      ∀ step ∈ steps, (step.evaluate site word).isSome = true := by
  induction steps with
  | nil => exact iff_of_true ⟨[], .nil⟩ (List.forall_mem_nil _)
  | cons step rest induction =>
      rw [List.forall_mem_cons, ← induction]
      constructor
      · rintro ⟨contributions, read⟩
        cases read with
        | cons head tail => exact ⟨by rw [head]; rfl, _, tail⟩
      · rintro ⟨accepted, contributions, tail⟩
        rcases Option.isSome_iff_exists.mp accepted with ⟨contribution, head⟩
        exact ⟨contribution :: contributions, .cons head tail⟩

/-! ## Outcomes -/

def acceptedRecord (form : InstructionForm) (contributions : List Contribution)
    (address : Address) : Instruction where
  mnemonic := form.mnemonic
  tags := form.tags
  address := address
  length := Instruction.encodedLength
  operands := contributions.filterMap Contribution.operand?
  setsCr0 := (contributions.filterMap Contribution.flag?).getLast?.getD false

theorem decode_of_stepsRead {state : DecodeState} {tree : DecodeTree InstructionForm} {word : Word}
    {address : Address} {form : InstructionForm} {contributions : List Contribution}
    (reached : tree.reach word = .form form)
    (read : StepsRead (state.start address).site word form.steps contributions) :
    state.decode tree word address =
      (⟨markZero word (acceptedRecord form contributions address), none⟩,
        { (state.start address).addAll contributions with operands := [] }) := by
  have finished := run_eq_ok_iff.mpr ⟨contributions, read, rfl⟩
  simp only [decode, reached, decodeTerminal, decodeForm, finished, finish, addAll_eq]
  rfl

theorem refuse_start (state : DecodeState) (word : Word) (address : Address)
    (kind : DiagnosticKind) (message : String) :
    (state.start address).refuse word kind message =
      (⟨.illegal address,
        some ⟨decoderName, kind, address, state.order.toBytes word, message⟩⟩,
        state.start address) :=
  rfl

theorem decode_of_run_error {state : DecodeState} {tree : DecodeTree InstructionForm} {word : Word}
    {address : Address} {form : InstructionForm} {step : DecodeStep}
    (reached : tree.reach word = .form form)
    (stopped : run word form.steps (state.start address) = .error step) :
    state.decode tree word address =
      (⟨markZero word (.illegal address),
        some ⟨decoderName, .rejected, address, state.order.toBytes word,
          form.mnemonic.name ++ " rejected by " ++ step.name⟩⟩,
        state.start address) := by
  simp only [decode, reached, decodeTerminal, decodeForm, stopped, refuse_start]

theorem decode_cases (state : DecodeState) (tree : DecodeTree InstructionForm) (word : Word)
    (address : Address) :
    (∃ form contributions, tree.reach word = .form form ∧
      StepsRead (state.start address).site word form.steps contributions ∧
      state.decode tree word address =
        (⟨markZero word (acceptedRecord form contributions address), none⟩,
          { (state.start address).addAll contributions with operands := [] })) ∨
    ∃ kind message, state.decode tree word address =
      (⟨markZero word (.illegal address),
        some ⟨decoderName, kind, address, state.order.toBytes word, message⟩⟩,
        state.start address) := by
  cases reached : tree.reach word with
  | form form =>
      cases finished : run word form.steps (state.start address) with
      | ok final =>
          rcases run_eq_ok_iff.mp finished with ⟨contributions, read, _⟩
          exact .inl ⟨form, contributions, rfl, read, decode_of_stepsRead reached read⟩
      | error step =>
          exact .inr ⟨.rejected, _, decode_of_run_error reached finished⟩
  | unmapped =>
      refine .inr ⟨.unmapped, "no decoder for encoding", ?_⟩
      simp only [decode, reached, decodeTerminal, refuse_start]
  | unsupported message =>
      refine .inr ⟨.unsupported, message, ?_⟩
      simp only [decode, reached, decodeTerminal, refuse_start]

/-! ## Nothing is kept from word to word -/

theorem start_decode (state : DecodeState) (tree : DecodeTree InstructionForm) (word : Word)
    (address next : Address) :
    (state.decode tree word address).2.start next = state.start next := by
  rcases decode_cases state tree word address with
    ⟨form, contributions, _, _, accepted⟩ | ⟨kind, message, refused⟩
  · rw [accepted, addAll_eq]
    rfl
  · rw [refused]
    rfl

theorem decode_congr {left right : DecodeState} {address : Address}
    (same : left.start address = right.start address) (tree : DecodeTree InstructionForm)
    (word : Word) : left.decode tree word address = right.decode tree word address := by
  rw [decode, decode, same]

/-! ## Records -/

/-- A record depends on the state only by what steps may use. -/
theorem decode_instruction_congr {left right : DecodeState} {address : Address}
    (same : (left.start address).site = (right.start address).site)
    (tree : DecodeTree InstructionForm) (word : Word) :
    (left.decode tree word address).1.instruction =
      (right.decode tree word address).1.instruction := by
  rcases decode_cases left tree word address with
    ⟨form, contributions, reached, read, outcome⟩ | ⟨kind, message, outcome⟩
  · rw [same] at read
    rw [outcome, decode_of_stepsRead reached read]
  · rcases decode_cases right tree word address with
      ⟨form, contributions, reached, read, other⟩ | ⟨otherKind, otherMessage, other⟩
    · rw [← same] at read
      rw [other, decode_of_stepsRead reached read]
    · rw [outcome, other]

theorem markZero_eq (word : Word) (instruction : Instruction) :
    markZero word instruction =
      { instruction with tags := (markZero word instruction).tags } := by
  unfold markZero
  split <;> rfl

theorem markZero_isValid (word : Word) (instruction : Instruction) :
    (markZero word instruction).isValid = instruction.isValid := by
  unfold markZero
  split
  next => simp [Instruction.isValid, InstructionTags.union]
  next => rfl

theorem decode_address (state : DecodeState) (tree : DecodeTree InstructionForm) (word : Word)
    (address : Address) : (state.decode tree word address).1.instruction.address = address := by
  rcases decode_cases state tree word address with
    ⟨form, contributions, _, _, outcome⟩ | ⟨kind, message, outcome⟩
  · rw [outcome, markZero_eq]
    rfl
  · rw [outcome, markZero_eq]
    rfl

theorem decode_nextAddress (state : DecodeState) (tree : DecodeTree InstructionForm)
    (word : Word) (address : Address) :
    (state.decode tree word address).1.instruction.nextAddress = address.offset 4 := by
  rcases decode_cases state tree word address with
    ⟨form, contributions, _, _, outcome⟩ | ⟨kind, message, outcome⟩
  · rw [outcome, markZero_eq]
    rfl
  · rw [outcome, markZero_eq]
    rfl

end DecodeState

end PowerDisasm
