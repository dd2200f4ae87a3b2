import PowerDisasm.Proofs.DecodeOutcome

/-! # Decode states with a history

One decode state serves for many words, and steps may be taken with it directly
in between, whose operands and flag it keeps. Whatever was done with a state,
it decodes the next word as a new state does, and has nothing pending then. -/

namespace PowerDisasm

inductive StateUse where
  | decode (tree : DecodeTree InstructionForm) (word : Word) (address : Address)
  | take (step : DecodeStep) (word : Word)

namespace DecodeState

/-- A step that rejects the word leaves the state as it was. -/
def use (state : DecodeState) : StateUse → DecodeState
  | .decode tree word address => (state.decode tree word address).2
  | .take step word => (state.takeStep? word step).getD state

def afterUses (state : DecodeState) (history : List StateUse) : DecodeState :=
  history.foldl use state

example : ((initial .ppc32 .big).use (.take (.general 21) 0x7C632215)).operands =
    [.register (.general 3)] := by decide

/-! ## Fresh starts -/

theorem start_add (state : DecodeState) (contribution : Contribution) (address : Address) :
    (state.add contribution).start address = state.start address := by
  cases contribution <;> rfl

theorem start_use (state : DecodeState) (action : StateUse) (address : Address) :
    (state.use action).start address = state.start address := by
  cases action with
  | decode tree word other => exact start_decode state tree word other address
  | take step word =>
      rw [use, takeStep?]
      cases step.evaluate state.site word with
      | none => rfl
      | some contribution => exact start_add state contribution address

theorem start_afterUses (state : DecodeState) (history : List StateUse) (address : Address) :
    (state.afterUses history).start address = state.start address := by
  induction history generalizing state with
  | nil => rfl
  | cons action rest induction =>
      have following : state.afterUses (action :: rest) = (state.use action).afterUses rest := rfl
      rw [following, induction, start_use]

/-! ## What a decoded word leaves behind -/

/-- Nothing is pending, and the flag and the address are those of the record. -/
structure Settled (state : DecodeState) (address : Address) (record : Instruction) : Prop where
  operands_eq : state.operands = []
  address_eq : state.site.address = address
  setsCr0_eq : state.setsCr0 = record.setsCr0

theorem settled_decode (state : DecodeState) (tree : DecodeTree InstructionForm) (word : Word)
    (address : Address) :
    (state.decode tree word address).2.Settled address
      (state.decode tree word address).1.instruction := by
  rcases decode_cases state tree word address with
    ⟨form, contributions, _, _, accepted⟩ | ⟨kind, message, refused⟩
  · rw [accepted, addAll_eq, markZero_eq]
    exact ⟨rfl, rfl, rfl⟩
  · rw [refused, markZero_eq]
    exact ⟨rfl, rfl, rfl⟩

/-- A state with any history decodes a word to the record and the diagnostic of
a new state. -/
theorem decode_afterUses (model : Model) (order : ByteOrder) (history : List StateUse)
    (tree : DecodeTree InstructionForm) (word : Word) (address : Address) :
    let fresh := initial model order
    let outcome := (fresh.afterUses history).decode tree word address
    outcome.1 = (fresh.decode tree word address).1 ∧
      outcome.2.Settled address outcome.1.instruction := by
  intro fresh outcome
  have sameStart : (fresh.afterUses history).start address = fresh.start address :=
    start_afterUses fresh history address
  have sameOutcome : outcome = fresh.decode tree word address :=
    decode_congr sameStart tree word
  exact ⟨congrArg Prod.fst sameOutcome, settled_decode _ tree word address⟩

end DecodeState

end PowerDisasm
