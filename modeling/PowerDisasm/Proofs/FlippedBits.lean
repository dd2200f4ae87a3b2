import PowerDisasm.Proofs.RecordText

/-! # Words that differ in one bit

The record flag of an instruction and the overflow bit of an arithmetic one are
bits of their own: no step reads an operand from them. Either no key looks at
such a bit, or there is an entry for either value of it. So a word and the word
with the bit turned over have records that differ in the flag, or in the
mnemonic, and in nothing else. -/

namespace PowerDisasm

/-! ## Turning a bit over -/

def flipBit (index : Nat) (word : Word) : Word :=
  word ^^^ BitVec.twoPow 32 index

theorem getLsbD_flipBit_of_ne {index other : Nat} (different : other ≠ index) (word : Word) :
    (flipBit index word).getLsbD other = word.getLsbD other := by
  rw [flipBit, BitVec.getLsbD_xor, BitVec.getLsbD_twoPow, decide_eq_false different.symm,
    Bool.and_false, Bool.xor_false]

theorem getLsbD_flipBit_self {index : Nat} (inWord : index < 32) (word : Word) :
    (flipBit index word).getLsbD index = !word.getLsbD index := by
  rw [flipBit, BitVec.getLsbD_xor, BitVec.getLsbD_twoPow, decide_eq_true inWord,
    decide_eq_true rfl, Bool.and_true, Bool.xor_true]

theorem agreeOn_flipBit {mask : Word} {index : Nat} (outside : mask.getLsbD index = false)
    (word : Word) : AgreeOn mask word (flipBit index word) := by
  apply AgreeOn.of_getLsbD_eq
  intro other inMask
  have different : other ≠ index := by
    rintro rfl
    rw [outside] at inMask
    cases inMask
  exact (getLsbD_flipBit_of_ne different word).symm

namespace Pattern

def flipBit (index : Nat) (pattern : Pattern) : Pattern :=
  ⟨pattern.mask, pattern.value ^^^ (BitVec.twoPow 32 index &&& pattern.mask)⟩

theorem Matches.flipBit {pattern : Pattern} {word : Word} (holds : pattern.Matches word)
    (index : Nat) : (pattern.flipBit index).Matches (PowerDisasm.flipBit index word) := by
  have distributed : (word ^^^ BitVec.twoPow 32 index) &&& pattern.mask =
      (word &&& pattern.mask) ^^^ (BitVec.twoPow 32 index &&& pattern.mask) := by
    apply BitVec.eq_of_getLsbD_eq
    intro other _
    simp only [BitVec.getLsbD_and, BitVec.getLsbD_xor, Bool.and_xor_distrib_right]
  exact distributed.trans (congrArg (· ^^^ _) holds)

theorem flipBit_of_open {pattern : Pattern} {index : Nat}
    (isOpen : pattern.mask.getLsbD index = false) : pattern.flipBit index = pattern := by
  have clear : BitVec.twoPow 32 index &&& pattern.mask = 0 := by
    rw [BitVec.and_comm, BitVec.and_twoPow, isOpen]
    rfl
  rw [flipBit, clear]
  exact congrArg (Pattern.mk pattern.mask) (BitVec.xor_zero)

end Pattern

/-- Each word of the encoding leads to the other form if the bit is turned over:
the key does not look at the bit and the form is the same, or there is an
encoding of the other form for the other value of the bit. -/
def Encoding.FlipsTo (encodings : List (Encoding InstructionForm)) (index : Nat)
    (encoding : Encoding InstructionForm) (other : InstructionForm) : Prop :=
  encoding.pattern.mask.getLsbD index = false ∧ encoding.form = other ∨
    ⟨encoding.pattern.flipBit index, other⟩ ∈ encodings

instance (encodings : List (Encoding InstructionForm)) (index : Nat)
    (encoding : Encoding InstructionForm) (other : InstructionForm) :
    Decidable (encoding.FlipsTo encodings index other) :=
  inferInstanceAs (Decidable (_ ∨ _))

/-! ## Record flags -/

namespace DecodeStep

def recordBit? : DecodeStep → Option Nat
  | .recordFlag => some 0
  | .recordFlag6 => some 6
  | .recordFlag10 => some 10
  | _ => none

theorem evaluate_of_recordBit? {step : DecodeStep} {index : Nat}
    (isRecord : step.recordBit? = some index) (site : DecodeSite) (word : Word) :
    step.evaluate site word = some (.setsCr0 (word.getLsbD index)) := by
  cases step <;> cases isRecord <;> rfl

end DecodeStep

def InstructionForm.RecordsLast (form : InstructionForm) (step : DecodeStep) (index : Nat) : Prop :=
  form.steps = form.steps.dropLast ++ [step] ∧
    (DecodeStep.allBitsRead form.steps.dropLast).getLsbD index = false

def Encoding.RecordsApart (encodings : List (Encoding InstructionForm))
    (encoding : Encoding InstructionForm) : Prop :=
  ∀ step ∈ encoding.form.steps, ∀ index ∈ step.recordBit?,
    encoding.form.RecordsLast step index ∧ encoding.FlipsTo encodings index encoding.form

instance (form : InstructionForm) (step : DecodeStep) (index : Nat) :
    Decidable (form.RecordsLast step index) :=
  inferInstanceAs (Decidable (_ ∧ _))

instance (encodings : List (Encoding InstructionForm)) (encoding : Encoding InstructionForm) :
    Decidable (encoding.RecordsApart encodings) :=
  inferInstanceAs (Decidable (∀ step ∈ encoding.form.steps, ∀ index ∈ step.recordBit?, _ ∧ _))

/-! ## Overflow twins -/

def Table.Integer.overflowTwins : List (Mnemonic × Mnemonic) :=
  overflowPairs.flatMap fun pair =>
    [(pair.plain, pair.recording), (pair.recording, pair.plain)]

def Encoding.HasTwin (encodings : List (Encoding InstructionForm))
    (encoding : Encoding InstructionForm) : Prop :=
  ∀ twins ∈ Table.Integer.overflowTwins, encoding.form.mnemonic = twins.1 →
    (DecodeStep.allBitsRead encoding.form.steps).getLsbD 10 = false ∧
      encoding.FlipsTo encodings 10 { encoding.form with mnemonic := twins.2 }

instance (encodings : List (Encoding InstructionForm)) (encoding : Encoding InstructionForm) :
    Decidable (encoding.HasTwin encodings) :=
  inferInstanceAs (Decidable (∀ twins ∈ Table.Integer.overflowTwins, _ → _ ∧ _))

namespace Table

theorem primary_recordsApart (has128 : Bool) :
    ∀ encoding ∈ (primary has128).encodings,
      encoding.RecordsApart (primary has128).encodings := by
  cases has128 <;> decide +kernel

theorem primary_hasTwin (has128 : Bool) :
    ∀ encoding ∈ (primary has128).encodings, encoding.HasTwin (primary has128).encodings := by
  cases has128 <;> decide +kernel

end Table

namespace Model

theorem tree_recordsApart (model : Model) :
    ∀ encoding ∈ model.tree.encodings, encoding.RecordsApart model.tree.encodings := by
  rw [tree_eq]
  exact Table.primary_recordsApart _

theorem tree_hasTwin (model : Model) :
    ∀ encoding ∈ model.tree.encodings, encoding.HasTwin model.tree.encodings := by
  rw [tree_eq]
  exact Table.primary_hasTwin _

end Model

theorem Encoding.FlipsTo.reach {model : Model} {encoding : Encoding InstructionForm} {index : Nat}
    {other : InstructionForm} (flips : encoding.FlipsTo model.tree.encodings index other)
    (inTable : encoding ∈ model.tree.encodings) {word : Word}
    (holds : encoding.pattern.Matches word) :
    model.tree.reach (flipBit index word) = .form other := by
  have flipped := holds.flipBit index
  rcases flips with ⟨isOpen, rfl⟩ | member
  · rw [Pattern.flipBit_of_open isOpen] at flipped
    exact Model.reach_tree_eq_form_iff.mpr ⟨_, flipped, inTable⟩
  · exact Model.reach_tree_eq_form_iff.mpr ⟨_, flipped, member⟩

/-! ## Steps -/

theorem StepsRead.exists_append {site : DecodeSite} {word : Word} {front back : List DecodeStep}
    {contributions : List Contribution}
    (read : StepsRead site word (front ++ back) contributions) :
    ∃ first rest, contributions = first ++ rest ∧ StepsRead site word front first ∧
      StepsRead site word back rest := by
  induction front generalizing contributions with
  | nil => exact ⟨[], contributions, rfl, .nil, read⟩
  | cons step others induction =>
      cases read with
      | cons head tail =>
          rcases induction tail with ⟨first, rest, rfl, firstRead, restRead⟩
          exact ⟨_ :: first, rest, rfl, .cons head firstRead, restRead⟩

theorem StepsRead.unique {site : DecodeSite} {word : Word} {steps : List DecodeStep}
    {left right : List Contribution} (leftRead : StepsRead site word steps left)
    (rightRead : StepsRead site word steps right) : left = right := by
  refine List.right_unique_forall₂' ?_ leftRead rightRead
  intro step first second isFirst isSecond
  exact Option.some.inj (isFirst.symm.trans isSecond)

theorem StepsRead.flipBit_of_recordsLast {form : InstructionForm} {step : DecodeStep}
    {index : Nat} (isLast : form.RecordsLast step index)
    (isRecord : step.recordBit? = some index) {site : DecodeSite} {word : Word}
    {contributions : List Contribution} (read : StepsRead site word form.steps contributions) :
    ∃ first, contributions = first ++ [.setsCr0 (word.getLsbD index)] ∧
      StepsRead site (flipBit index word) form.steps
        (first ++ [.setsCr0 ((flipBit index word).getLsbD index)]) := by
  rcases isLast with ⟨steps, apart⟩
  rw [steps] at read ⊢
  rcases read.exists_append with ⟨first, rest, rfl, firstRead, restRead⟩
  have flagRead (other : Word) :
      StepsRead site other [step] [.setsCr0 (other.getLsbD index)] :=
    .cons (DecodeStep.evaluate_of_recordBit? isRecord site other) .nil
  exact ⟨first, by rw [restRead.unique (flagRead word)],
    List.rel_append (firstRead.congr (agreeOn_flipBit apart word)) (flagRead _)⟩

/-! ## Records -/

theorem DecodeState.acceptedRecord_append_flag (form : InstructionForm)
    (contributions : List Contribution) (flag : Bool) (address : Address) :
    acceptedRecord form (contributions ++ [.setsCr0 flag]) address =
      { acceptedRecord form contributions address with setsCr0 := flag } := by
  simp [acceptedRecord, Contribution.operand?, Contribution.flag?]

theorem DecodeStep.recordBit?_lt {step : DecodeStep} {index : Nat}
    (isRecord : step.recordBit? = some index) : index < 32 := by
  cases step <;> cases isRecord <;> decide

namespace Processor

theorem decode_eq_acceptedRecord {model : Model} {word : Word} {form : InstructionForm}
    {contributions : List Contribution} {address : Address}
    (reached : model.tree.reach word = .form form)
    (read : StepsRead (model.site address) word form.steps contributions) (order : ByteOrder) :
    ((Processor.mk model order).decode word address).instruction =
      DecodeState.acceptedRecord form contributions address := by
  rw [decode_accepted reached read, DecodeState.markZero, if_neg (Model.word_ne_zero reached)]

theorem flipBit_recordFlag {model : Model} {order : ByteOrder} {word : Word} {address : Address}
    {form : InstructionForm} (reached : model.tree.reach word = .form form)
    (valid : ((Processor.mk model order).decode word address).instruction.isValid = true)
    {step : DecodeStep} (member : step ∈ form.steps) {index : Nat}
    (isRecord : step.recordBit? = some index) :
    let record (other : Word) := ((Processor.mk model order).decode other address).instruction
    (record word).setsCr0 = word.getLsbD index ∧
      record (flipBit index word) = { record word with setsCr0 := !(record word).setsCr0 } := by
  intro record
  rcases exists_accepted_of_valid valid with ⟨other, contributions, otherReached, read, _⟩
  rw [reached] at otherReached
  cases otherReached
  rcases Model.reach_tree_eq_form_iff.mp reached with ⟨pattern, holds, inTable⟩
  rcases model.tree_recordsApart _ inTable step member index isRecord with ⟨isLast, flips⟩
  have flippedReached := flips.reach inTable holds
  rcases read.flipBit_of_recordsLast isLast isRecord with ⟨first, rfl, flippedRead⟩
  have isRead : record word = _ := decode_eq_acceptedRecord reached read order
  have isFlipped : record (flipBit index word) = _ :=
    decode_eq_acceptedRecord flippedReached flippedRead order
  rw [DecodeState.acceptedRecord_append_flag] at isRead isFlipped
  rw [getLsbD_flipBit_self (DecodeStep.recordBit?_lt isRecord)] at isFlipped
  rw [isRead, isFlipped]
  exact ⟨rfl, rfl⟩

theorem flipBit_overflow {model : Model} {order : ByteOrder} {word : Word} {address : Address}
    (valid : ((Processor.mk model order).decode word address).instruction.isValid = true)
    {twins : Mnemonic × Mnemonic} (areTwins : twins ∈ Table.Integer.overflowTwins) :
    let record (other : Word) := ((Processor.mk model order).decode other address).instruction
    (record word).mnemonic = twins.1 →
      record (flipBit 10 word) = { record word with mnemonic := twins.2 } := by
  intro record isFirst
  rcases exists_accepted_of_valid valid with ⟨form, contributions, reached, read, _⟩
  rcases Model.reach_tree_eq_form_iff.mp reached with ⟨pattern, holds, inTable⟩
  have isRead : record word = _ := decode_eq_acceptedRecord reached read order
  rw [isRead] at isFirst ⊢
  rcases model.tree_hasTwin _ inTable twins areTwins isFirst with ⟨apart, flips⟩
  have flippedRead := read.congr (agreeOn_flipBit apart word)
  exact decode_eq_acceptedRecord (flips.reach inTable holds) flippedRead order

/-- Turning over the bit of the record flag negates the flag of the record, and
turning over the overflow bit of an arithmetic instruction exchanges its mnemonic
with the twin. Nothing else in the record changes. -/
theorem decode_flipBit (model : Model) (order : ByteOrder)
    (address : Address) (word : Word)
    (valid : ((Processor.mk model order).decode word address).instruction.isValid = true) :
    let record (other : Word) := ((Processor.mk model order).decode other address).instruction
    (∀ form, model.tree.reach word = .form form →
      ∀ step ∈ form.steps, ∀ index, step.recordBit? = some index →
        (record word).setsCr0 = word.getLsbD index ∧
          (record (flipBit index word)).isValid = true ∧
          record (flipBit index word) =
            { record word with setsCr0 := !(record word).setsCr0 }) ∧
    ∀ twins ∈ Table.Integer.overflowTwins, (record word).mnemonic = twins.1 →
      (record (flipBit 10 word)).isValid = true ∧
        record (flipBit 10 word) = { record word with mnemonic := twins.2 } := by
  intro record
  constructor
  · intro form reached step member index isRecord
    rcases flipBit_recordFlag reached valid member isRecord with ⟨flag, flipped⟩
    have sameTags := congrArg Instruction.isValid flipped
    exact ⟨flag, sameTags.trans valid, flipped⟩
  · intro twins areTwins isFirst
    have flipped := flipBit_overflow valid areTwins isFirst
    have sameTags := congrArg Instruction.isValid flipped
    exact ⟨sameTags.trans valid, flipped⟩

/-- An addition by its record flag and its overflow bit, and a comparison of
vectors, which has its record flag in the key. -/
theorem decode_flipBit_additionAndComparison :
    let record (word : Word) := ((Processor.mk .xenon .big).decode word (.ofNat 0x100)).instruction
    ((record 0x7C632214).isValid = true ∧ (record 0x10221C06).isValid = true) ∧
      record 0x7C632215 = { record 0x7C632214 with setsCr0 := true } ∧
      record 0x7C632614 = { record 0x7C632214 with mnemonic := .addo } ∧
      record 0x10221806 = { record 0x10221C06 with setsCr0 := false } := by
  intro record
  have addition : (record 0x7C632214).isValid = true := by decide +kernel
  have comparison : (record 0x10221C06).isValid = true := by decide +kernel
  rcases decode_flipBit .xenon .big (.ofNat 0x100) 0x7C632214 addition with ⟨ofFlag, ofTwins⟩
  rcases decode_flipBit .xenon .big (.ofNat 0x100) 0x10221C06 comparison with ⟨inKey, _⟩
  have added := ofFlag ⟨.add, { linear := true }, Table.Integer.onTwo⟩ (by decide +kernel)
    .recordFlag (by decide) 0 rfl
  have overflows := ofTwins (.add, .addo) (by decide) (by decide +kernel)
  have compared := inKey ⟨.vcmpequb, { linear := true }, Table.Vector.onTwo ++ [.recordFlag10]⟩
    (by decide +kernel) .recordFlag10 (by decide) 10 rfl
  rw [added.1] at added
  rw [compared.1] at compared
  exact ⟨⟨addition, comparison⟩, added.2.2, overflows.2, compared.2.2⟩

end Processor

end PowerDisasm
