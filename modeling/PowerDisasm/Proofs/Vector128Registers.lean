import PowerDisasm.Proofs.ScatteredNumbers

/-! # Encodings of 128 vector registers

The parts of a register number lie beside the keys of the tables. Wherever no
key looks at a part, each form can be given any registers at all. The shifts
and rotations are found through bit 5, which holds a part of their first
source, so half of the registers are out of its reach. -/

namespace PowerDisasm

/-! ## The encodings with scattered numbers -/

namespace InstructionForm

def namesVector128 (form : InstructionForm) : Bool :=
  form.steps.any fun step => step.vectorFields?.isSome

end InstructionForm

namespace Table.Vector128

/-- The instructions that are found through bit 5. -/
def shiftMnemonics : List Mnemonic := [.vrlw128, .vslw128, .vsraw128, .vsrw128]

/-- The part of a target's number at which the keys of loads and stores look. -/
def targetTop : List Field := [.span 2 2]

def storageEncoding (instruction : Nat × Mnemonic) (top : Nat) : Encoding InstructionForm where
  pattern :=
    ⟨0xFC0007FF, 0x10000003 ||| BitVec.ofNat 32 (instruction.1 * 16) |||
      Field.scatter targetTop (BitVec.ofNat 32 top)⟩
  form := ⟨instruction.2, { linear := true }, [.vectorTarget128, .general 16, .general 11]⟩

/-- The operands ask a shift for a first source that has bit 5 of its number set. -/
def OutOfReach (mnemonic : Mnemonic) (operands : List Operand) : Prop :=
  mnemonic ∈ shiftMnemonics ∧
    ∃ number : Nat, operands[1]? = some (.register (.vector number)) ∧ number.testBit 5 = true

theorem independent :
    ∀ encoding ∈ withVector128.encodings, encoding.form.namesVector128 = true →
      DecodeStep.Independent encoding.form.steps ∧
        ∀ step ∈ encoding.form.steps, step.usesAddress = false := by
  decide +kernel

/-- Keys look at parts of a register number in loads and stores and in shifts. -/
theorem sharedBits_cases :
    ∀ encoding ∈ withVector128.encodings, encoding.form.namesVector128 = true →
      sharedBits encoding = 0 ∨ sharedBits encoding = 0xC ∨
        (sharedBits encoding = 0x20 ∧ encoding.form.mnemonic ∈ shiftMnemonics) := by
  decide +kernel

theorem storage_encodings :
    withVector128.encodings.filter (fun encoding => sharedBits encoding = 0xC) =
      storage.flatMap fun instruction => (List.range 4).map (storageEncoding instruction) := by
  decide +kernel

theorem storageEncoding_top :
    ∀ instruction ∈ storage, ∀ top ∈ List.range 4,
      (storageEncoding instruction top).pattern.value &&& 0xC =
        Field.scatter targetTop (BitVec.ofNat 32 top) := by
  decide +kernel

theorem shift_encodings :
    ∀ encoding ∈ withVector128.encodings, encoding.form.mnemonic ∈ shiftMnemonics →
      encoding.form.steps = onTwo ∧ encoding.pattern.mask.getLsbD 5 = true ∧
        encoding.pattern.value.getLsbD 5 = false := by
  decide +kernel

end Table.Vector128

/-! ## What several steps read -/

open Table.Vector128

theorem exists_read_at {model : Model} {steps : List DecodeStep}
    {contributions : List Contribution} (address : Address)
    (free : ∀ step ∈ steps, step.usesAddress = false)
    (each : List.Forall₂ (DecodeStep.CanRead model) steps contributions) :
    List.Forall₂ (fun step contribution =>
      ∃ word, step.evaluate (model.site address) word = some contribution)
      steps contributions := by
  induction each with
  | nil => exact .nil
  | cons head _ induction =>
      rcases head with ⟨other, word, read⟩
      refine .cons ⟨word, ?_⟩ (induction fun step member =>
        free step (List.mem_cons_of_mem _ member))
      rw [DecodeStep.evaluate_site (free _ List.mem_cons_self) model address other]
      exact read

theorem StepsRead.onTwo {address : Address} {word : Word} {contributions : List Contribution}
    (read : StepsRead (Model.xenon.site address) word Table.Vector128.onTwo contributions) :
    ∃ target first second : Nat,
      contributions = [.vector target, .vector first, .vector second] ∧
        first.testBit 5 = word.getLsbD 5 := by
  cases read with
  | cons target rest =>
      cases rest with
      | cons first rest =>
          cases rest with
          | cons second rest =>
              cases rest
              cases target
              cases second
              have register := first
              cases first
              exact ⟨_, _, _, rfl, DecodeStep.testBit_vectorFirst128 register⟩

/-! ## Words for all registers -/

namespace Table.Vector128

theorem exists_storage_agreeOn {encoding : Encoding InstructionForm}
    (inTable : encoding ∈ withVector128.encodings) (shared : sharedBits encoding = 0xC)
    (word : Word) :
    ∃ other ∈ withVector128.encodings, other.form = encoding.form ∧
      AgreeOn (sharedBits other) word other.pattern.value := by
  have inStorage : encoding ∈ storage.flatMap fun instruction =>
      (List.range 4).map (storageEncoding instruction) := by
    rw [← storage_encodings, List.mem_filter]
    exact ⟨inTable, decide_eq_true shared⟩
  rcases List.mem_flatMap.mp inStorage with ⟨instruction, inList, inFour⟩
  rcases List.mem_map.mp inFour with ⟨_, _, rfl⟩
  have bound : (Field.gather targetTop word).toNat < 4 := Field.toNat_gather_lt targetTop word
  have top := List.mem_range.mpr bound
  have otherMember : storageEncoding instruction (Field.gather targetTop word).toNat ∈
      withVector128.encodings.filter fun encoding => sharedBits encoding = 0xC := by
    rw [storage_encodings]
    exact List.mem_flatMap.mpr ⟨instruction, inList, List.mem_map_of_mem top⟩
  rcases List.mem_filter.mp otherMember with ⟨otherInTable, otherShared⟩
  refine ⟨_, otherInTable, rfl, ?_⟩
  rw [of_decide_eq_true otherShared, AgreeOn, storageEncoding_top instruction inList _ top,
    BitVec.ofNat_toNat, BitVec.setWidth_eq, Field.scatter_gather targetTop word (by decide)]
  rfl

theorem exists_agreeOn {encoding : Encoding InstructionForm}
    (inTable : encoding ∈ withVector128.encodings) (names : encoding.form.namesVector128 = true)
    {address : Address} {word : Word} {contributions : List Contribution}
    (read : StepsRead (Model.xenon.site address) word encoding.form.steps contributions)
    (within :
      ¬ OutOfReach encoding.form.mnemonic (contributions.filterMap Contribution.operand?)) :
    ∃ other ∈ withVector128.encodings, other.form = encoding.form ∧
      AgreeOn (sharedBits other) word other.pattern.value := by
  rcases sharedBits_cases encoding inTable names with shared | shared | ⟨shared, shift⟩
  · refine ⟨encoding, inTable, rfl, ?_⟩
    rw [shared]
    exact BitVec.and_zero.trans BitVec.and_zero.symm
  · exact exists_storage_agreeOn inTable shared word
  · rcases shift_encodings encoding inTable shift with ⟨steps, _, clear⟩
    rw [steps] at read
    rcases read.onTwo with ⟨target, first, second, rfl, bit⟩
    have firstClear : first.testBit 5 = false := by
      rw [← Bool.not_eq_true]
      exact fun set => within ⟨shift, first, rfl, set⟩
    refine ⟨encoding, inTable, rfl, ?_⟩
    have isBit5 : (0x20 : Word) = BitVec.twoPow 32 5 := rfl
    rw [shared, isBit5]
    exact AgreeOn.of_bit_eq (by rw [← bit, firstClear, clear])

end Table.Vector128

theorem InstructionForm.exists_word {form : InstructionForm}
    (member : form ∈ Model.xenon.tree.forms) (names : form.namesVector128 = true)
    {contributions : List Contribution}
    (each : List.Forall₂ (DecodeStep.CanRead .xenon) form.steps contributions)
    (within : ¬ OutOfReach form.mnemonic (contributions.filterMap Contribution.operand?)) :
    ∃ word, Model.xenon.tree.reach word = .form form ∧
      ∀ address, StepsRead (Model.xenon.site address) word form.steps contributions := by
  rcases Model.exists_encoding member with ⟨encoding, inTable, rfl⟩
  rcases independent encoding inTable names with ⟨separate, free⟩
  rcases exists_stepsRead separate (exists_read_at (.ofNat 0) free each) with ⟨word, read⟩
  rcases exists_agreeOn inTable names read within with ⟨other, otherInTable, sameForm, agree⟩
  rw [← sameForm] at read free ⊢
  have inModel : other ∈ Model.xenon.tree.encodings := otherInTable
  rcases read.exists_reaching inModel agree with ⟨reaching, reached, reachingRead⟩
  exact ⟨reaching, reached, fun address => reachingRead.at address free⟩

namespace Processor

theorem not_shows_of_outOfReach {form : InstructionForm} {contributions : List Contribution}
    (outside : OutOfReach form.mnemonic (contributions.filterMap Contribution.operand?))
    (word : Word) (order : ByteOrder) (address : Address) :
    ¬ ((Processor.mk .xenon order).decode word address).instruction.Shows form contributions := by
  rcases outside with ⟨shift, number, isFirst, set⟩
  intro shows
  rcases DecodeState.decode_cases (Processor.mk .xenon order).initialState Model.xenon.tree word
      address with ⟨found, read, reached, stepsRead, outcome⟩ | ⟨kind, message, outcome⟩
  · rw [decode, tree, outcome, Instruction.shows_markZero_iff] at shows
    rcases Model.reach_tree_eq_form_iff.mp reached with ⟨pattern, holds, inTable⟩
    have sameMnemonic : found.mnemonic = form.mnemonic := shows.mnemonic
    rw [← sameMnemonic] at shift
    rcases shift_encodings _ inTable shift with ⟨steps, fixed, clear⟩
    rw [steps] at stepsRead
    rcases StepsRead.onTwo stepsRead with ⟨target, first, second, rfl, bit⟩
    rw [← shows.operands] at isFirst
    cases isFirst
    have bitClear : word.getLsbD 5 = false := by
      have sameBit := congrArg (fun bits => bits.getLsbD 5) holds
      rw [BitVec.getLsbD_and, fixed, clear, Bool.and_true] at sameBit
      exact sameBit
    rw [bit, bitClear] at set
    cases set
  · rw [decode, tree, outcome, Instruction.shows_markZero_iff] at shows
    have notShift : Mnemonic.illegal ∉ shiftMnemonics := by decide
    rw [← shows.mnemonic] at shift
    exact notShift shift

end Processor

/-- Each form takes any registers for its scattered numbers, together with
anything for its other operands and its record flag, but for the first source
of a shift: half of the numbers are out of its reach. -/
theorem words_for_all_registers (form : InstructionForm)
    (member : form ∈ Model.xenon.tree.forms) (names : form.namesVector128 = true) :
    (∀ step ∈ form.steps, ∀ fields, step.vectorFields? = some fields →
      (∀ site word, step.evaluate site word =
        some (.operand (.register (site.registers.vector (Field.gather fields word))))) ∧
      ∀ contribution, step.CanRead .xenon contribution ↔
        ∃ number < 128, contribution = .vector number) ∧
    (∀ contribution, DecodeStep.recordFlag6.CanRead .xenon contribution ↔
      ∃ flag, contribution = .setsCr0 flag) ∧
    ∀ contributions, List.Forall₂ (DecodeStep.CanRead .xenon) form.steps contributions →
      (¬ OutOfReach form.mnemonic (contributions.filterMap Contribution.operand?) →
        ∃ word, ∀ order address,
          ((Processor.mk .xenon order).decode word address).instruction.Shows
            form contributions) ∧
      (OutOfReach form.mnemonic (contributions.filterMap Contribution.operand?) →
        ∀ word order address,
          ¬ ((Processor.mk .xenon order).decode word address).instruction.Shows
            form contributions) := by
  refine ⟨?_, DecodeStep.canRead_recordFlag6_iff .xenon, ?_⟩
  · intro step _ fields scattered
    exact ⟨DecodeStep.evaluate_of_vectorFields? scattered,
      DecodeStep.canRead_vector_iff scattered⟩
  · intro contributions each
    constructor
    · intro within
      rcases form.exists_word member names each within with ⟨word, reached, read⟩
      exact ⟨word, fun order address => Processor.decode_shows reached (read address) order⟩
    · exact Processor.not_shows_of_outOfReach

def rotateWords : InstructionForm :=
  ⟨.vrlw128, { linear := true }, onTwo⟩

theorem rotateWords_mem_forms : rotateWords ∈ Model.xenon.tree.forms := by
  decide +kernel

theorem canRead_onTwo {target first second : Nat} (targetBound : target < 128)
    (firstBound : first < 128) (secondBound : second < 128) :
    List.Forall₂ (DecodeStep.CanRead .xenon) onTwo
      [.vector target, .vector first, .vector second] :=
  .cons ((DecodeStep.canRead_vector_iff rfl _).mpr ⟨target, targetBound, rfl⟩)
    (.cons ((DecodeStep.canRead_vector_iff rfl _).mpr ⟨first, firstBound, rfl⟩)
      (.cons ((DecodeStep.canRead_vector_iff rfl _).mpr ⟨second, secondBound, rfl⟩) .nil))

theorem words_for_all_registers_rotateWords :
    (rotateWords ∈ Model.xenon.tree.forms ∧
      ¬ OutOfReach .vrlw128
        [.register (.vector 127), .register (.vector 95), .register (.vector 126)]) ∧
    ∃ word, ∀ order address,
      ((Processor.mk .xenon order).decode word address).instruction.Shows
        rotateWords [.vector 127, .vector 95, .vector 126] := by
  have within : ¬ OutOfReach .vrlw128
      [.register (.vector 127), .register (.vector 95), .register (.vector 126)] := by
    rintro ⟨_, number, isFirst, set⟩
    cases isFirst
    revert set
    decide
  have each := canRead_onTwo (show 127 < 128 by decide) (show 95 < 128 by decide)
    (show 126 < 128 by decide)
  refine ⟨⟨rotateWords_mem_forms, within⟩, ?_⟩
  exact ((words_for_all_registers rotateWords rotateWords_mem_forms (by decide)).2.2 _ each).1
    within

/-- No word rotates register 32, which the form has room for. -/
theorem no_word_rotates_register32 :
    (rotateWords ∈ Model.xenon.tree.forms ∧
      List.Forall₂ (DecodeStep.CanRead .xenon) rotateWords.steps
        [.vector 0, .vector 32, .vector 0]) ∧
    ¬ ∃ word order address,
      ((Processor.mk .xenon order).decode word address).instruction.Shows
        rotateWords [.vector 0, .vector 32, .vector 0] := by
  refine ⟨⟨rotateWords_mem_forms,
    canRead_onTwo (by decide) (by decide) (by decide)⟩, ?_⟩
  rintro ⟨word, order, address, shows⟩
  exact Processor.not_shows_of_outOfReach ⟨by decide, 32, rfl, by decide⟩
    word order address shows

end PowerDisasm
