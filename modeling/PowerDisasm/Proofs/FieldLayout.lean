import Mathlib.Algebra.Group.Nat.Defs
import Mathlib.Data.List.Nodup
import Mathlib.Data.List.Perm.Subperm
import PowerDisasm.Bits.Field

/-! # Gathering and scattering fields

`gather` and `scatter` bit by bit, and in which sense they undo each other: a
value that is gathered scatters back to the bits it came from as long as the
fields have no more than 32 bits together, and a value that is scattered
gathers back as long as no bit belongs to two fields. -/

namespace PowerDisasm.Field

def Apart (left right : Field) : Prop :=
  left.position + left.length ≤ right.position ∨
    right.position + right.length ≤ left.position

instance (left right : Field) : Decidable (left.Apart right) :=
  inferInstanceAs (Decidable (_ ∨ _))

def Separate (fields : List Field) : Prop :=
  fields.Pairwise Apart

instance (fields : List Field) : Decidable (Separate fields) :=
  inferInstanceAs (Decidable (fields.Pairwise Apart))

/-! ## Single bits -/

@[simp] theorem span_position {position length : Nat}
    (inside : decide (1 ≤ length ∧ position + length ≤ 32) = true) :
    (span position length inside).position = position := rfl

@[simp] theorem span_length {position length : Nat}
    (inside : decide (1 ≤ length ∧ position + length ≤ 32) = true) :
    (span position length inside).length = length := rfl

theorem length_le (field : Field) : field.length ≤ 32 := by
  have inside := field.inside_word
  omega

@[simp] theorem getLsbD_valueMask (field : Field) (index : Nat) :
    field.valueMask.getLsbD index = decide (index < field.length) := by
  have bound := field.length_le
  rw [valueMask, BitVec.getLsbD_ofNat, Nat.one_shiftLeft, Nat.testBit_two_pow_sub_one]
  by_cases inside : index < field.length
  · simp [inside]
    omega
  · simp [inside]

@[simp] theorem getLsbD_wordMask (field : Field) (index : Nat) :
    field.wordMask.getLsbD index =
      decide (field.position ≤ index ∧ index < field.position + field.length) := by
  have bound := field.inside_word
  rw [wordMask, BitVec.getLsbD_shiftLeft, getLsbD_valueMask, Bool.eq_iff_iff]
  simp only [Bool.and_eq_true, Bool.not_eq_true', decide_eq_true_eq, decide_eq_false_iff_not]
  omega

@[simp] theorem getLsbD_read (field : Field) (word : Word) (index : Nat) :
    (field.read word).getLsbD index =
      (decide (index < field.length) && word.getLsbD (field.position + index)) := by
  rw [read, BitVec.getLsbD_and, BitVec.getLsbD_ushiftRight, getLsbD_valueMask, Bool.and_comm]

@[simp] theorem getLsbD_mask (fields : List Field) (index : Nat) :
    (mask fields).getLsbD index =
      decide (∃ field ∈ fields,
        field.position ≤ index ∧ index < field.position + field.length) := by
  induction fields with
  | nil => simp [mask]
  | cons field rest induction =>
      rw [mask, BitVec.getLsbD_or, getLsbD_wordMask, induction, Bool.eq_iff_iff]
      simp

@[simp] theorem totalLength_nil : totalLength [] = 0 := rfl

@[simp] theorem totalLength_cons (field : Field) (rest : List Field) :
    totalLength (field :: rest) = field.length + totalLength rest := rfl

theorem gather_single (field : Field) (word : Word) : gather [field] word = field.read word := by
  simp [gather]

theorem getLsbD_gather_of_le (fields : List Field) (word : Word) (index : Nat)
    (beyond : totalLength fields ≤ index) : (gather fields word).getLsbD index = false := by
  induction fields with
  | nil => simp [gather]
  | cons field rest induction =>
      rw [totalLength_cons] at beyond
      have restBeyond := induction (by omega)
      have fieldBeyond : ¬ index - totalLength rest < field.length := by omega
      simp [gather, restBeyond, fieldBeyond]

theorem toNat_gather_lt (fields : List Field) (word : Word) :
    (gather fields word).toNat < 2 ^ totalLength fields := by
  apply Nat.lt_pow_two_of_testBit
  intro index beyond
  exact getLsbD_gather_of_le fields word index beyond

theorem getLsbD_gather_cons (field : Field) (rest : List Field) (word : Word) (index : Nat)
    (fits : totalLength (field :: rest) ≤ 32) :
    (gather (field :: rest) word).getLsbD index =
      if index < totalLength rest then (gather rest word).getLsbD index
      else (field.read word).getLsbD (index - totalLength rest) := by
  rw [totalLength_cons] at fits
  rw [gather, BitVec.getLsbD_or, BitVec.getLsbD_shiftLeft]
  by_cases low : index < totalLength rest
  · simp [low]
  · have restBeyond := getLsbD_gather_of_le rest word index (by omega)
    by_cases high : index - totalLength rest < field.length
    · have inside : index < 32 := by omega
      simp only [low, inside, restBeyond, decide_true, decide_false, Bool.not_false,
        Bool.true_and, Bool.or_false, if_false]
    · simp [low, restBeyond, high]

theorem getLsbD_scatter_cons (field : Field) (rest : List Field) (value : Word) (index : Nat) :
    (scatter (field :: rest) value).getLsbD index =
      ((decide (field.position ≤ index ∧ index < field.position + field.length) &&
          value.getLsbD (totalLength rest + (index - field.position))) ||
        (scatter rest value).getLsbD index) := by
  have bound := field.inside_word
  rw [scatter, BitVec.getLsbD_or, BitVec.getLsbD_shiftLeft, BitVec.getLsbD_and,
    getLsbD_valueMask, BitVec.getLsbD_ushiftRight, Bool.eq_iff_iff]
  by_cases inside : field.position ≤ index ∧ index < field.position + field.length
  · have inWord : index < 32 := by omega
    have inField : index - field.position < field.length := by omega
    simp [inside, inWord, inField]
  · by_cases above : field.position ≤ index
    · have notInField : ¬ index - field.position < field.length := by omega
      simp [inside, notInField]
    · have below : index < field.position := by omega
      simp [inside, below]

theorem scatter_congr (fields : List Field) (left right : Word)
    (agree : ∀ index < totalLength fields, left.getLsbD index = right.getLsbD index) :
    scatter fields left = scatter fields right := by
  induction fields with
  | nil => rfl
  | cons field rest induction =>
      rw [totalLength_cons] at agree
      have restEqual := induction fun index bound => agree index (by omega)
      apply BitVec.eq_of_getLsbD_eq
      intro index _
      rw [getLsbD_scatter_cons, getLsbD_scatter_cons, restEqual]
      by_cases inside : field.position ≤ index ∧ index < field.position + field.length
      · rw [agree (totalLength rest + (index - field.position)) (by omega)]
      · simp [inside]

/-! ## The two together -/

theorem scatter_gather (fields : List Field) (word : Word) (fits : totalLength fields ≤ 32) :
    scatter fields (gather fields word) = word &&& mask fields := by
  induction fields with
  | nil => simp [scatter, mask]
  | cons field rest induction =>
      have restFits : totalLength rest ≤ 32 := by
        rw [totalLength_cons] at fits
        omega
      have restValue :
          scatter rest (gather (field :: rest) word) = scatter rest (gather rest word) := by
        apply scatter_congr
        intro index bound
        rw [getLsbD_gather_cons field rest word index fits, if_pos bound]
      apply BitVec.eq_of_getLsbD_eq
      intro index _
      rw [getLsbD_scatter_cons, restValue, induction restFits, mask, BitVec.and_or_distrib_left,
        BitVec.getLsbD_or]
      by_cases inside : field.position ≤ index ∧ index < field.position + field.length
      · have inField : index - field.position < field.length := by omega
        have notInRest : ¬ totalLength rest + (index - field.position) < totalLength rest := by
          omega
        rw [getLsbD_gather_cons field rest word _ fits, if_neg notInRest, getLsbD_read,
          Nat.add_sub_cancel_left, Nat.add_sub_cancel' inside.1]
        simp only [BitVec.getLsbD_and, getLsbD_wordMask, inside, inField, true_and, decide_true,
          Bool.true_and, Bool.and_true]
      · simp [inside]

theorem gather_congr (fields : List Field) (left right : Word)
    (agree : left &&& mask fields = right &&& mask fields) :
    gather fields left = gather fields right := by
  induction fields with
  | nil => rfl
  | cons field rest induction =>
      have bits : ∀ index, (mask (field :: rest)).getLsbD index = true →
          left.getLsbD index = right.getLsbD index := by
        intro index inMask
        have bit := congrArg (fun word => word.getLsbD index) agree
        simpa only [BitVec.getLsbD_and, inMask, Bool.and_true] using bit
      have restEqual : gather rest left = gather rest right := by
        apply induction
        apply BitVec.eq_of_getLsbD_eq
        intro index _
        rw [BitVec.getLsbD_and, BitVec.getLsbD_and]
        cases inRest : (mask rest).getLsbD index with
        | false => simp
        | true => rw [bits index (by rw [mask, BitVec.getLsbD_or, inRest, Bool.or_true])]
      have fieldEqual : field.read left = field.read right := by
        apply BitVec.eq_of_getLsbD_eq
        intro index _
        rw [getLsbD_read, getLsbD_read]
        by_cases inField : index < field.length
        · rw [bits (field.position + index) (by simp [mask, inField])]
        · simp [inField]
      rw [gather, gather, restEqual, fieldEqual]

theorem scatter_and_mask (fields : List Field) (value : Word) :
    scatter fields value &&& mask fields = scatter fields value := by
  induction fields with
  | nil => simp [scatter]
  | cons field rest induction =>
      apply BitVec.eq_of_getLsbD_eq
      intro index _
      have restBit := congrArg (fun word => word.getLsbD index) induction
      simp only [BitVec.getLsbD_and] at restBit
      rw [BitVec.getLsbD_and, getLsbD_scatter_cons, mask, BitVec.getLsbD_or, getLsbD_wordMask,
        ← restBit]
      by_cases inside : field.position ≤ index ∧ index < field.position + field.length
      · simp [inside]
      · simp [inside]

theorem getLsbD_mask_of_apart {field : Field} {rest : List Field}
    (apart : ∀ other ∈ rest, field.Apart other) {index : Nat}
    (inside : field.position ≤ index ∧ index < field.position + field.length) :
    (mask rest).getLsbD index = false := by
  rw [getLsbD_mask, decide_eq_false_iff_not]
  rintro ⟨other, member, otherInside⟩
  have separated := apart other member
  unfold Apart at separated
  omega

theorem getLsbD_scatter_of_apart {field : Field} {rest : List Field}
    (apart : ∀ other ∈ rest, field.Apart other) (value : Word) {index : Nat}
    (inside : field.position ≤ index ∧ index < field.position + field.length) :
    (scatter rest value).getLsbD index = false := by
  rw [← scatter_and_mask, BitVec.getLsbD_and, getLsbD_mask_of_apart apart inside,
    Bool.and_false]

def positions (fields : List Field) : List Nat :=
  fields.flatMap fun field => List.range' field.position field.length

theorem length_positions (fields : List Field) :
    (positions fields).length = totalLength fields := by
  induction fields with
  | nil => rfl
  | cons field rest induction =>
      rw [totalLength_cons, ← induction]
      simp [positions]

theorem positions_nodup (fields : List Field) (separate : Separate fields) :
    (positions fields).Nodup := by
  rw [positions, List.nodup_flatMap]
  refine ⟨fun field _ => List.nodup_range', ?_⟩
  apply separate.imp
  intro left right apart
  apply List.disjoint_left.mpr
  intro index inLeft inRight
  rw [List.mem_range'_1] at inLeft inRight
  unfold Apart at apart
  omega

theorem totalLength_le (fields : List Field) (separate : Separate fields) :
    totalLength fields ≤ 32 := by
  have inWord : positions fields ⊆ List.range 32 := by
    intro index member
    rcases List.mem_flatMap.mp member with ⟨field, _, inField⟩
    have bound := field.inside_word
    rw [List.mem_range'_1] at inField
    exact List.mem_range.mpr (by omega)
  have counted := ((positions_nodup fields separate).subperm inWord).length_le
  rwa [length_positions, List.length_range] at counted

theorem getLsbD_gather_scatter (fields : List Field) (separate : Separate fields) (value : Word)
    (index : Nat) (inside : index < totalLength fields) :
    (gather fields (scatter fields value)).getLsbD index = value.getLsbD index := by
  induction fields generalizing index with
  | nil => simp at inside
  | cons field rest induction =>
      have fits := totalLength_le (field :: rest) separate
      rcases List.pairwise_cons.mp separate with ⟨apart, restSeparate⟩
      have restValue : gather rest (scatter (field :: rest) value) =
          gather rest (scatter rest value) := by
        apply gather_congr
        apply BitVec.eq_of_getLsbD_eq
        intro position _
        rw [BitVec.getLsbD_and, BitVec.getLsbD_and, getLsbD_scatter_cons]
        by_cases inField : field.position ≤ position ∧ position < field.position + field.length
        · rw [getLsbD_mask_of_apart apart inField, Bool.and_false, Bool.and_false]
        · simp [inField]
      rw [getLsbD_gather_cons field rest _ index fits, restValue]
      by_cases low : index < totalLength rest
      · rw [if_pos low, induction restSeparate index low]
      · rw [totalLength_cons] at inside
        have inField : index - totalLength rest < field.length := by omega
        have atField : field.position ≤ field.position + (index - totalLength rest) ∧
            field.position + (index - totalLength rest) < field.position + field.length := by
          omega
        rw [if_neg low, getLsbD_read, getLsbD_scatter_cons,
          getLsbD_scatter_of_apart apart value atField, Nat.add_sub_cancel_left,
          Nat.add_sub_cancel' (Nat.le_of_not_lt low)]
        simp [inField]

theorem toNat_gather_scatter (fields : List Field) (separate : Separate fields) (value : Word) :
    (gather fields (scatter fields value)).toNat = value.toNat % 2 ^ totalLength fields := by
  apply Nat.eq_of_testBit_eq
  intro index
  rw [Nat.testBit_mod_two_pow]
  by_cases inside : index < totalLength fields
  · rw [decide_eq_true inside, Bool.true_and]
    exact getLsbD_gather_scatter fields separate value index inside
  · rw [decide_eq_false inside, Bool.false_and]
    exact getLsbD_gather_of_le fields _ index (Nat.le_of_not_lt inside)

theorem gather_scatter (fields : List Field) (separate : Separate fields) (value : Nat)
    (bound : value < 2 ^ totalLength fields) :
    (gather fields (scatter fields (BitVec.ofNat 32 value))).toNat = value := by
  have fits := totalLength_le fields separate
  have inWord : value < 2 ^ 32 :=
    Nat.lt_of_lt_of_le bound (Nat.pow_le_pow_right (by omega) fits)
  rw [toNat_gather_scatter fields separate, BitVec.toNat_ofNat, Nat.mod_eq_of_lt inWord,
    Nat.mod_eq_of_lt bound]

end PowerDisasm.Field
