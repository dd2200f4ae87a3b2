import PowerDisasm.DecodeState
import PowerDisasm.Proofs.FieldLayout

/-! # The bits that a step reads

Each step of a form reads some bits of the word and no others. Steps that read
different bits do not get in each other's way: whatever each of them reads from
a word of its own, all of them read from one word together. -/

namespace PowerDisasm

def AgreeOn (mask left right : Word) : Prop :=
  left &&& mask = right &&& mask

namespace AgreeOn

variable {mask left right : Word}

theorem getLsbD_eq (agree : AgreeOn mask left right) {index : Nat}
    (inMask : mask.getLsbD index = true) : left.getLsbD index = right.getLsbD index := by
  have bit := congrArg (fun word => word.getLsbD index) agree
  simpa only [BitVec.getLsbD_and, inMask, Bool.and_true] using bit

theorem of_getLsbD_eq
    (bits : ∀ index, mask.getLsbD index = true → left.getLsbD index = right.getLsbD index) :
    AgreeOn mask left right := by
  apply BitVec.eq_of_getLsbD_eq
  intro index _
  rw [BitVec.getLsbD_and, BitVec.getLsbD_and]
  cases inMask : mask.getLsbD index with
  | false => rw [Bool.and_false, Bool.and_false]
  | true => rw [bits index inMask]

theorem mono (agree : AgreeOn mask left right) {part : Word} (within : part &&& mask = part) :
    AgreeOn part left right := by
  apply of_getLsbD_eq
  intro index inPart
  apply agree.getLsbD_eq
  rw [← within, BitVec.getLsbD_and, Bool.and_eq_true] at inPart
  exact inPart.2

theorem left_of_or {other : Word} (agree : AgreeOn (mask ||| other) left right) :
    AgreeOn mask left right := by
  apply of_getLsbD_eq
  intro index inMask
  exact agree.getLsbD_eq (by rw [BitVec.getLsbD_or, inMask, Bool.true_or])

theorem right_of_or {other : Word} (agree : AgreeOn (other ||| mask) left right) :
    AgreeOn mask left right := by
  rw [BitVec.or_comm] at agree
  exact agree.left_of_or

theorem of_bit_eq {index : Nat} (same : left.getLsbD index = right.getLsbD index) :
    AgreeOn (BitVec.twoPow 32 index) left right := by
  apply of_getLsbD_eq
  intro other inMask
  rw [BitVec.getLsbD_twoPow, Bool.and_eq_true, decide_eq_true_eq, decide_eq_true_eq] at inMask
  rw [← inMask.2]
  exact same

theorem shiftRight_and_eq {low : Word} {offset : Nat}
    (agree : AgreeOn (low <<< offset) left right) :
    (left >>> offset) &&& low = (right >>> offset) &&& low := by
  apply BitVec.eq_of_getLsbD_eq
  intro index _
  simp only [BitVec.getLsbD_and, BitVec.getLsbD_ushiftRight]
  cases inLow : low.getLsbD index with
  | false => rw [Bool.and_false, Bool.and_false]
  | true =>
      by_cases inWord : offset + index < 32
      · have inMask : (low <<< offset).getLsbD (offset + index) = true := by
          have notBelow : ¬ offset + index < offset := by omega
          simp only [BitVec.getLsbD_shiftLeft, inWord, notBelow, Nat.add_sub_cancel_left, inLow,
            decide_true, decide_false, Bool.not_false, Bool.and_self]
        rw [agree.getLsbD_eq inMask]
      · rw [BitVec.getLsbD_of_ge left _ (by omega), BitVec.getLsbD_of_ge right _ (by omega)]

theorem field_eq (agree : AgreeOn mask left right) (low : Word) (offset : Nat)
    (within : (low <<< offset) &&& mask = low <<< offset) :
    (left >>> offset) &&& low = (right >>> offset) &&& low :=
  (agree.mono within).shiftRight_and_eq

theorem part_eq (agree : AgreeOn mask left right) (part : Word)
    (within : part &&& mask = part) : left &&& part = right &&& part :=
  agree.mono within

end AgreeOn

/-! ## Registers and halves -/

namespace RegisterCatalog

theorem general_congr {left right : Word} (same : left &&& 0x1F = right &&& 0x1F) :
    general left = general right := by
  have numbers := congrArg BitVec.toNat same
  rw [BitVec.toNat_and, BitVec.toNat_and] at numbers
  rw [general, general, generalCount, ← Nat.and_two_pow_sub_one_eq_mod _ 5,
    ← Nat.and_two_pow_sub_one_eq_mod _ 5]
  exact congrArg Register.general numbers

theorem floating_congr {left right : Word} (same : left &&& 0x1F = right &&& 0x1F) :
    floating left = floating right := by
  have numbers := congrArg BitVec.toNat same
  rw [BitVec.toNat_and, BitVec.toNat_and] at numbers
  rw [floating, floating, floatingCount, ← Nat.and_two_pow_sub_one_eq_mod _ 5,
    ← Nat.and_two_pow_sub_one_eq_mod _ 5]
  exact congrArg Register.floating numbers

theorem condition_congr {left right : Word} (same : left &&& 0x7 = right &&& 0x7) :
    condition left = condition right := by
  have numbers := congrArg BitVec.toNat same
  rw [BitVec.toNat_and, BitVec.toNat_and] at numbers
  rw [condition, condition, conditionCount, ← Nat.and_two_pow_sub_one_eq_mod _ 3,
    ← Nat.and_two_pow_sub_one_eq_mod _ 3]
  exact congrArg Register.condition numbers

end RegisterCatalog

namespace DecodeStep

theorem lowHalf_congr {left right : Word} (agree : AgreeOn 0xFFFF left right) :
    lowHalf left = lowHalf right := by
  have low (word : Word) : lowHalf word = (word &&& 0xFFFF).setWidth 16 := by
    rw [BitVec.setWidth_and]
    exact (BitVec.and_allOnes).symm
  rw [low left, low right, agree]

theorem setWidth_byte_congr {left right : Word} (same : left &&& 0xFF = right &&& 0xFF) :
    left.setWidth 8 = right.setWidth 8 := by
  have low (word : Word) : word.setWidth 8 = (word &&& 0xFF).setWidth 8 := by
    rw [BitVec.setWidth_and]
    exact (BitVec.and_allOnes).symm
  rw [low left, low right, same]

/-! ## Steps -/

/-- The bits on which the outcome of a step depends. -/
def bitsRead : DecodeStep → Word
  | .general offset => 0x1F <<< offset
  | .floating offset => 0x1F <<< offset
  | .floatingPair offset => 0x1F <<< offset
  | .vector offset => 0x1F <<< offset
  | .condition offset => 0x7 <<< offset
  | .comparisonResult => 0x03800000
  | .special => 0x001FF800
  | .vectorTarget128 => 0x03E0000C
  | .vectorFirst128 => 0x001F0420
  | .vectorSecond128 => 0x0000F803
  | .vectorControl128 => 0x000001C0
  | .signed16 => 0xFFFF
  | .unsigned16 => 0xFFFF
  | .unsigned5 offset => 0x1F <<< offset
  | .unsignedField field => field.wordMask
  | .signedField field => field.wordMask
  | .unsignedFields fields => Field.mask fields
  | .signedFields fields => Field.mask fields
  | .conditionMask => 0x000FF000
  | .memory offset => 0x1F <<< offset ||| 0xFFFF
  | .alignedMemory => 0x001FFFFF
  | .selectedMemory offset => 0x1F <<< offset ||| 0xFFFC
  | .target field => field.wordMask ||| 0x2
  | .recordFlag => 0x1
  | .recordFlag6 => 0x40
  | .recordFlag10 => 0x400
  | .alwaysRecords => 0
  | .only64 => 0

theorem read_congr {field : Field} {left right : Word} (agree : AgreeOn field.wordMask left right) :
    field.read left = field.read right :=
  agree.shiftRight_and_eq

theorem evaluate_congr (site : DecodeSite) {step : DecodeStep} {left right : Word}
    (agree : AgreeOn step.bitsRead left right) :
    step.evaluate site left = step.evaluate site right := by
  cases step with
  | general offset =>
      rw [evaluate, evaluate, RegisterCatalog.general_congr agree.shiftRight_and_eq]
  | floating offset =>
      rw [evaluate, evaluate, RegisterCatalog.floating_congr agree.shiftRight_and_eq]
  | floatingPair offset =>
      rw [evaluate, evaluate, RegisterCatalog.floating_congr agree.shiftRight_and_eq]
  | vector offset => rw [evaluate, evaluate, agree.shiftRight_and_eq]
  | condition offset =>
      rw [evaluate, evaluate, RegisterCatalog.condition_congr agree.shiftRight_and_eq]
  | comparisonResult =>
      rw [evaluate, evaluate, RegisterCatalog.condition_congr (agree.field_eq 0x7 23 (by decide))]
  | special =>
      simp only [evaluate, specialNumber, agree.field_eq (0x1F : Nat) 16 (by decide),
        agree.field_eq 0x3E0 6 (by decide)]
  | vectorTarget128 =>
      rw [evaluate, evaluate, agree.field_eq (0x1F : Nat) 21 (by decide),
        agree.part_eq 0xC (by decide)]
  | vectorFirst128 =>
      rw [evaluate, evaluate, agree.field_eq (0x1F : Nat) 16 (by decide),
        agree.field_eq 0x40 4 (by decide), agree.part_eq 0x20 (by decide)]
  | vectorSecond128 =>
      rw [evaluate, evaluate, agree.field_eq (0x1F : Nat) 11 (by decide),
        agree.part_eq 0x3 (by decide)]
  | vectorControl128 => rw [evaluate, evaluate, agree.field_eq 0x7 6 (by decide)]
  | signed16 => rw [evaluate, evaluate, lowHalf_congr agree]
  | unsigned16 => rw [evaluate, evaluate, lowHalf_congr agree]
  | unsigned5 offset => rw [evaluate, evaluate, agree.shiftRight_and_eq]
  | unsignedField field => rw [evaluate, evaluate, read_congr agree]
  | signedField field => simp only [evaluate, Field.readSigned, read_congr agree]
  | unsignedFields fields => rw [evaluate, evaluate, Field.gather_congr fields left right agree]
  | signedFields fields =>
      simp only [evaluate, Field.gatherSigned, Field.gather_congr fields left right agree]
  | conditionMask =>
      rw [evaluate, evaluate, setWidth_byte_congr (agree.field_eq 0xFF 12 (by decide))]
  | memory offset =>
      rw [evaluate, evaluate, RegisterCatalog.general_congr agree.left_of_or.shiftRight_and_eq,
        lowHalf_congr agree.right_of_or]
  | alignedMemory =>
      rw [evaluate, evaluate, agree.part_eq 0x3 (by decide),
        RegisterCatalog.general_congr (agree.field_eq 0x1F 16 (by decide)),
        lowHalf_congr (agree.mono (by decide))]
  | selectedMemory offset =>
      rw [evaluate, evaluate, RegisterCatalog.general_congr agree.left_of_or.shiftRight_and_eq,
        agree.right_of_or.part_eq 0xFFFC (by decide)]
  | target field =>
      have absolute : left.getLsbD 1 = right.getLsbD 1 :=
        agree.right_of_or.getLsbD_eq (by decide)
      simp only [evaluate, branchTarget, Field.readSigned, read_congr agree.left_of_or, absolute]
  | recordFlag => rw [evaluate, evaluate, agree.getLsbD_eq (by decide)]
  | recordFlag6 => rw [evaluate, evaluate, agree.getLsbD_eq (by decide)]
  | recordFlag10 => rw [evaluate, evaluate, agree.getLsbD_eq (by decide)]
  | alwaysRecords => rfl
  | only64 => rfl

end DecodeStep

end PowerDisasm
