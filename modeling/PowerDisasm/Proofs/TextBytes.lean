import Mathlib.Algebra.Group.Nat.Defs
import PowerDisasm.Text.Numeral

/-! # Texts in bytes

Texts are compared character by character. Their bytes in UTF-8 stand in the
same order: a longer encoding begins with a greater byte, and encodings of the
same length differ first where the numbers of the characters do. -/

namespace PowerDisasm.TextBytes

def utf8 (text : String) : List UInt8 :=
  text.toUTF8.data.toList

theorem utf8_eq_flatMap (text : String) :
    utf8 text = text.toList.flatMap String.utf8EncodeChar := by
  rw [utf8, String.toUTF8_eq_toByteArray, ← String.utf8Encode_toList, List.utf8Encode,
    List.data_toByteArray]

/-! ## Bytes in order -/

/-- The bytes stay in order whatever follows them. -/
def Below (left right : List UInt8) : Prop :=
  ∀ afterLeft afterRight, left ++ afterLeft < right ++ afterRight

theorem ofNat_lt_ofNat {low high : Nat} (less : low < high) (bound : high < 256) :
    UInt8.ofNat low < UInt8.ofNat high := by
  rw [UInt8.lt_iff_toNat_lt, UInt8.toNat_ofNat', UInt8.toNat_ofNat']
  omega

theorem below_of_head {left right : UInt8} (less : left < right) (leftTail rightTail : List UInt8) :
    Below (left :: leftTail) (right :: rightTail) := fun _ _ =>
  List.cons_lt_cons_iff.mpr (.inl less)

def continuation (value : Nat) : UInt8 :=
  .ofNat (value % 64 + 0x80)

theorem below_continued {left right : List UInt8} {low high : Nat} (less : low < high)
    (above : low / 64 < high / 64 → Below left right) (same : low / 64 = high / 64 → left = right) :
    Below (left ++ [continuation low]) (right ++ [continuation high]) := by
  intro afterLeft afterRight
  rw [List.append_assoc, List.append_assoc]
  have digits : low / 64 < high / 64 ∨ low / 64 = high / 64 ∧ low % 64 < high % 64 := by omega
  rcases digits with before | ⟨equal, before⟩
  · exact above before _ _
  · rw [same equal]
    apply List.append_left_lt
    exact below_of_head (ofNat_lt_ofNat (by omega) (by omega)) [] [] _ _

/-! ## Encodings -/

def continuations : Nat → Nat → List UInt8
  | 0, _ => []
  | count + 1, value => continuations count (value / 64) ++ [continuation value]

def encoded (lead count value : Nat) : List UInt8 :=
  .ofNat (value / 64 ^ count + lead) :: continuations count value

theorem encoded_succ (lead count value : Nat) :
    encoded lead (count + 1) value = encoded lead count (value / 64) ++ [continuation value] := by
  rw [encoded, encoded, continuations, Nat.pow_succ', Nat.div_div_eq_div_mul, List.cons_append]

theorem encoded_below {lead count low high : Nat} (less : low < high)
    (bound : high / 64 ^ count + lead < 256) :
    Below (encoded lead count low) (encoded lead count high) := by
  induction count generalizing low high with
  | zero =>
      rw [Nat.pow_zero, Nat.div_one] at bound
      apply below_of_head
      rw [Nat.pow_zero, Nat.div_one, Nat.div_one]
      exact ofNat_lt_ofNat (Nat.add_lt_add_right less lead) bound
  | succ count induction =>
      rw [encoded_succ, encoded_succ]
      rw [Nat.pow_succ', ← Nat.div_div_eq_div_mul] at bound
      exact below_continued less (fun before => induction before bound) (fun same => by rw [same])

/-- The first byte and the number of bytes behind it that numbers of some size
are encoded with. -/
inductive Row : Nat → Nat → Nat → Prop where
  | one {value : Nat} (last : value ≤ 0x7F) : Row value 0 0
  | two {value : Nat} (first : 0x7F < value) (last : value ≤ 0x7FF) : Row value 0xC0 1
  | three {value : Nat} (first : 0x7FF < value) (last : value ≤ 0xFFFF) : Row value 0xE0 2
  | four {value : Nat} (first : 0xFFFF < value) (last : value ≤ 0x10FFFF) : Row value 0xF0 3

theorem exists_row (character : Char) :
    ∃ lead count, Row character.toNat lead count ∧
      String.utf8EncodeChar character = encoded lead count character.toNat := by
  have last : character.toNat ≤ 0x10FFFF := by
    have valid : character.toNat.isValidChar := character.valid
    unfold Nat.isValidChar at valid
    omega
  unfold String.utf8EncodeChar
  dsimp only
  rw [Char.toNat_val]
  split
  next one => exact ⟨_, _, .one one, by simp [encoded, continuations]⟩
  next notOne =>
    split
    next two =>
      have first : character.toNat / 64 % 0x20 = character.toNat / 64 := by omega
      refine ⟨_, _, .two (Nat.lt_of_not_le notOne) two, ?_⟩
      rw [first]
      rfl
    next notTwo =>
      split
      next three =>
        have first : character.toNat / 4096 % 0x10 = character.toNat / 4096 := by omega
        refine ⟨_, _, .three (Nat.lt_of_not_le notTwo) three, ?_⟩
        rw [first]
        rfl
      next notThree =>
        have first : character.toNat / 262144 % 0x08 = character.toNat / 262144 := by omega
        have second : character.toNat / 4096 = character.toNat / 64 / 64 := by omega
        refine ⟨_, _, .four (Nat.lt_of_not_le notThree) last, ?_⟩
        rw [first, second]
        rfl

namespace Row

theorem head_lt {value lead count : Nat} (row : Row value lead count) :
    value / 64 ^ count + lead < 256 := by
  cases row <;> omega

theorem same_or_head_lt {low high lowLead highLead lowCount highCount : Nat}
    (lowRow : Row low lowLead lowCount) (highRow : Row high highLead highCount)
    (less : low < high) :
    (lowLead = highLead ∧ lowCount = highCount) ∨
      low / 64 ^ lowCount + lowLead < high / 64 ^ highCount + highLead := by
  cases lowRow <;> cases highRow <;> omega

theorem below {low high lowLead highLead lowCount highCount : Nat}
    (lowRow : Row low lowLead lowCount) (highRow : Row high highLead highCount)
    (less : low < high) :
    Below (encoded lowLead lowCount low) (encoded highLead highCount high) := by
  rcases lowRow.same_or_head_lt highRow less with ⟨rfl, rfl⟩ | before
  · exact encoded_below less highRow.head_lt
  · exact below_of_head (ofNat_lt_ofNat before highRow.head_lt) _ _

end Row

theorem utf8EncodeChar_below {left right : Char} (less : left < right) :
    Below (String.utf8EncodeChar left) (String.utf8EncodeChar right) := by
  rcases exists_row left with ⟨leftLead, leftCount, leftRow, leftEq⟩
  rcases exists_row right with ⟨rightLead, rightCount, rightRow, rightEq⟩
  rw [leftEq, rightEq]
  exact leftRow.below rightRow less

theorem flatMap_lt_flatMap {left right : List Char} (less : left < right) :
    left.flatMap String.utf8EncodeChar < right.flatMap String.utf8EncodeChar := by
  induction less with
  | @nil character rest =>
      have nonempty : String.utf8EncodeChar character ≠ [] := String.utf8EncodeChar_ne_nil
      rcases List.exists_cons_of_ne_nil nonempty with ⟨byte, bytes, isEncoding⟩
      rw [List.flatMap_cons, isEncoding]
      exact List.nil_lt_cons _ _
  | rel before =>
      rw [List.flatMap_cons, List.flatMap_cons]
      exact utf8EncodeChar_below before _ _
  | cons _ induction =>
      rw [List.flatMap_cons, List.flatMap_cons]
      exact List.append_left_lt induction

theorem utf8_lt_utf8 {left right : String} (less : left < right) : utf8 left < utf8 right := by
  rw [utf8_eq_flatMap, utf8_eq_flatMap]
  exact flatMap_lt_flatMap less

end PowerDisasm.TextBytes
