import PowerDisasm.Proofs.EncodedWords

/-! # Which words are accepted

A step may reject a word for three reasons only: the processor is too narrow,
the first register of a pair is odd, or a displacement is not a multiple of
four. The latter two concern the loads and stores of pairs, which have two
primary opcodes to themselves. So whether a word is accepted is told from the
word and the model, and never from where the word is. -/

namespace PowerDisasm

/-! ## Steps -/

namespace DecodeStep

/-- What a step asks of a word and of the width of the processor. -/
def Admits (width : WordWidth) (word : Word) : DecodeStep → Prop
  | .floatingPair offset => word.getLsbD offset = false
  | .alignedMemory => word &&& 0x3 = 0
  | .only64 => width = .w64
  | _ => True

theorem floating_number_even_iff (bits : Word) :
    (RegisterCatalog.floating bits).number % 2 = 0 ↔ bits.getLsbD 0 = false := by
  change bits.toNat % 32 % 2 = 0 ↔ bits.toNat.testBit 0 = false
  rw [Nat.mod_mod_of_dvd _ (by decide), Nat.testBit_zero, decide_eq_false_iff_not]
  omega

theorem isSome_evaluate_iff (site : DecodeSite) (word : Word) (step : DecodeStep) :
    (step.evaluate site word).isSome = true ↔ step.Admits site.wordWidth word := by
  cases step with
  | floatingPair offset =>
      have lowest : (word >>> offset).getLsbD 0 = word.getLsbD offset := by
        rw [BitVec.getLsbD_ushiftRight, Nat.add_zero]
      rw [Admits, ← lowest, ← floating_number_even_iff]
      exact Option.isSome_ite
  | alignedMemory | only64 => exact Option.isSome_ite
  | _ => exact iff_of_true rfl trivial

def checksWord : DecodeStep → Bool
  | .floatingPair _ => true
  | .alignedMemory => true
  | _ => false

theorem admits_iff_of_checksWord {step : DecodeStep} (free : step.checksWord = false)
    (width : WordWidth) (word : Word) :
    step.Admits width word ↔ (step = .only64 → width = .w64) := by
  cases step with
  | floatingPair offset => cases free
  | alignedMemory => cases free
  | only64 => exact ⟨fun wide _ => wide, fun wide => wide rfl⟩
  | _ => exact iff_of_true trivial nofun

end DecodeStep

/-! ## Loads and stores of pairs -/

namespace Table

def IsPairOpcode (opcode : Word) : Prop :=
  opcode = 57 ∨ opcode = 61

instance (opcode : Word) : Decidable (IsPairOpcode opcode) :=
  inferInstanceAs (Decidable (_ ∨ _))

/-- Under an opcode of pairs is what takes a pair, and nothing else checks a word. -/
def PairsApart (encoding : Encoding InstructionForm) : Prop :=
  primaryOpcode.wordMask &&& encoding.pattern.mask = primaryOpcode.wordMask ∧
    if IsPairOpcode (primaryOpcode.read encoding.pattern.value) then
      encoding.form.steps = Storage.ofPair
    else
      ∀ step ∈ encoding.form.steps, step.checksWord = false

instance (encoding : Encoding InstructionForm) : Decidable (PairsApart encoding) :=
  inferInstanceAs (Decidable (_ ∧ _))

theorem primary_pairsApart (has128 : Bool) :
    ∀ encoding ∈ (primary has128).encodings, PairsApart encoding := by
  cases has128 <;> decide +kernel

end Table

namespace Model

theorem tree_pairsApart (model : Model) :
    ∀ encoding ∈ model.tree.encodings, Table.PairsApart encoding := by
  rw [tree_eq]
  exact Table.primary_pairsApart _

/-- The word under an opcode of pairs has an odd register or a displacement that
is not a multiple of four. -/
def UnfitPair (word : Word) : Prop :=
  Table.IsPairOpcode (Table.primaryOpcode.read word) ∧
    (word.getLsbD 21 = true ∨ word &&& 0x3 ≠ 0)

inductive Refuses (model : Model) (word : Word) : Prop where
  | unmapped (found : model.tree.reach word = .unmapped)
  | unsupported (message : String) (found : model.tree.reach word = .unsupported message)
  | only64 (form : InstructionForm) (found : model.tree.reach word = .form form)
      (narrow : model = .ppc32) (guarded : .only64 ∈ form.steps)
  | pair (unfit : UnfitPair word)

theorem wordWidth_eq_w64_iff (model : Model) : model.wordWidth = .w64 ↔ model ≠ .ppc32 := by
  cases model <;> decide

theorem all_admit_iff {model : Model} {encoding : Encoding InstructionForm}
    (inTable : encoding ∈ model.tree.encodings) {word : Word}
    (holds : encoding.pattern.Matches word) :
    (∀ step ∈ encoding.form.steps, step.Admits model.wordWidth word) ↔
      ¬ (model = .ppc32 ∧ .only64 ∈ encoding.form.steps) ∧ ¬ UnfitPair word := by
  rcases model.tree_pairsApart encoding inTable with ⟨opcodeFixed, apart⟩
  have sameOpcode :
      Table.primaryOpcode.read word = Table.primaryOpcode.read encoding.pattern.value :=
    DecodeStep.read_congr ((agreeOn_value_of_matches holds).mono opcodeFixed)
  rw [← sameOpcode] at apart
  by_cases isPair : Table.IsPairOpcode (Table.primaryOpcode.read word)
  · rw [if_pos isPair] at apart
    simp [apart, Table.Storage.ofPair, DecodeStep.Admits, UnfitPair, isPair]
  · rw [if_neg isPair] at apart
    have fits : ¬ UnfitPair word := fun unfit => isPair unfit.1
    have admits (step : DecodeStep) (member : step ∈ encoding.form.steps) :
        step.Admits model.wordWidth word ↔ (step = .only64 → model.wordWidth = .w64) :=
      DecodeStep.admits_iff_of_checksWord (apart step member) _ word
    rw [and_iff_left fits, not_and', ← Ne, ← wordWidth_eq_w64_iff]
    constructor
    · intro all guarded
      exact (admits .only64 guarded).mp (all .only64 guarded) rfl
    · intro wide step member
      rw [admits step member]
      intro isGuard
      exact wide (isGuard ▸ member)

theorem exists_stepsRead_iff_not_refuses (model : Model) (word : Word) (address : Address) :
    (∃ form contributions, model.tree.reach word = .form form ∧
      StepsRead (model.site address) word form.steps contributions) ↔ ¬ model.Refuses word := by
  have readsIff {form : InstructionForm} (found : model.tree.reach word = .form form) :
      (∃ contributions, StepsRead (model.site address) word form.steps contributions) ↔
        ¬ (model = .ppc32 ∧ .only64 ∈ form.steps) ∧ ¬ UnfitPair word := by
    rcases reach_tree_eq_form_iff.mp found with ⟨pattern, holds, inTable⟩
    rw [DecodeState.exists_stepsRead_iff, ← all_admit_iff inTable holds]
    simp only [DecodeStep.isSome_evaluate_iff]
    rfl
  constructor
  · intro accepted refuses
    rcases accepted with ⟨form, contributions, found, read⟩
    have fits := (readsIff found).mp ⟨contributions, read⟩
    cases refuses with
    | unmapped other => rw [found] at other; cases other
    | unsupported message other => rw [found] at other; cases other
    | only64 guardedForm other narrow guarded =>
        rw [found] at other
        cases other
        exact fits.1 ⟨narrow, guarded⟩
    | pair unfit => exact fits.2 unfit
  · intro notRefuses
    cases found : model.tree.reach word with
    | unmapped => exact absurd (.unmapped found) notRefuses
    | unsupported message => exact absurd (.unsupported message found) notRefuses
    | form form =>
        have fits : ¬ (model = .ppc32 ∧ .only64 ∈ form.steps) ∧ ¬ UnfitPair word :=
          ⟨fun guard => notRefuses (.only64 form found guard.1 guard.2),
            fun unfit => notRefuses (.pair unfit)⟩
        rcases (readsIff found).mpr fits with ⟨contributions, read⟩
        exact ⟨form, contributions, rfl, read⟩

end Model

/-! ## Records -/

namespace Processor

theorem refuses_or_accepts (model : Model) (order : ByteOrder) (word : Word)
    (address : Address) :
    let record := ((Processor.mk model order).decode word address).instruction
    (model.Refuses word ∧ record = DecodeState.markZero word (.illegal address)) ∨
      (¬ model.Refuses word ∧ record.isValid = true ∧
        ∃ form, model.tree.reach word = .form form ∧ record.mnemonic = form.mnemonic) := by
  intro record
  by_cases refuses : model.Refuses word
  · left
    rcases DecodeState.decode_cases (.initial model order) model.tree word address with
      ⟨form, contributions, reached, read, _⟩ | ⟨kind, message, outcome⟩
    · have notRefuses := (model.exists_stepsRead_iff_not_refuses word address).mp
        ⟨form, contributions, reached, read⟩
      exact absurd refuses notRefuses
    · exact ⟨refuses, congrArg (fun result => result.1.instruction) outcome⟩
  · right
    rcases (model.exists_stepsRead_iff_not_refuses word address).mpr refuses with
      ⟨form, contributions, reached, read⟩
    have outcome : record =
        DecodeState.markZero word (DecodeState.acceptedRecord form contributions address) :=
      decode_accepted reached read order
    have valid := model.tree_forms_valid form (DecodeTree.mem_forms_of_reach reached)
    refine ⟨refuses, ?_, form, reached, ?_⟩
    · rw [outcome, DecodeState.markZero_isValid]
      exact congrArg not valid
    · exact (decode_shows reached read order).mnemonic

theorem decode_valid_iff (model : Model) (order : ByteOrder) (word : Word) (address : Address) :
    ((Processor.mk model order).decode word address).instruction.isValid = true ↔
      ¬ model.Refuses word := by
  rcases refuses_or_accepts model order word address with ⟨refuses, illegal⟩ | ⟨accepts, valid, _⟩
  · rw [illegal, DecodeState.markZero_isValid]
    exact iff_of_false Bool.false_ne_true (not_not_intro refuses)
  · exact iff_of_true valid accepts

theorem exists_accepted_of_valid {model : Model} {order : ByteOrder} {word : Word}
    {address : Address}
    (valid : ((Processor.mk model order).decode word address).instruction.isValid = true) :
    ∃ form contributions, model.tree.reach word = .form form ∧
      StepsRead (model.site address) word form.steps contributions ∧
      ((Processor.mk model order).decode word address).instruction =
        DecodeState.markZero word (DecodeState.acceptedRecord form contributions address) := by
  have accepts := (decode_valid_iff model order word address).mp valid
  rcases (model.exists_stepsRead_iff_not_refuses word address).mpr accepts with
    ⟨form, contributions, reached, read⟩
  exact ⟨form, contributions, reached, read, decode_accepted reached read order⟩

/-- The record is illegal exactly if the model refuses the word, and otherwise
that of the form to which the word leads, wherever the word is. -/
theorem decode_illegal_iff_refuses (model : Model) (order : ByteOrder) (word : Word)
    (address : Address) :
    let record := ((Processor.mk model order).decode word address).instruction
    (record.isValid = false ↔ model.Refuses word) ∧
      (record = DecodeState.markZero word (.illegal address) ↔ model.Refuses word) ∧
      ((record.isValid = true ∧
        ∃ form, model.tree.reach word = .form form ∧ record.mnemonic = form.mnemonic) ↔
          ¬ model.Refuses word) ∧
      ∀ other, ((Processor.mk model order).decode word other).instruction.isValid =
        record.isValid := by
  intro record
  have outcome := refuses_or_accepts model order word address
  have validIff : record.isValid = true ↔ ¬ model.Refuses word :=
    decode_valid_iff model order word address
  have invalidIff : record.isValid = false ↔ model.Refuses word := by
    rw [← Bool.not_eq_true, validIff, not_not]
  refine ⟨invalidIff, ⟨?_, ?_⟩, ⟨fun accepted => validIff.mp accepted.1, ?_⟩, ?_⟩
  · intro illegal
    rw [← invalidIff, illegal]
    exact DecodeState.markZero_isValid word _
  · intro refuses
    rcases outcome with ⟨_, illegal⟩ | ⟨accepts, _⟩
    · exact illegal
    · exact absurd refuses accepts
  · intro accepts
    rcases outcome with ⟨refuses, _⟩ | ⟨_, accepted⟩
    · exact absurd refuses accepts
    · exact accepted
  · intro other
    exact Bool.eq_iff_iff.mpr ((decode_valid_iff model order word other).trans validIff.symm)

end Processor

end PowerDisasm
