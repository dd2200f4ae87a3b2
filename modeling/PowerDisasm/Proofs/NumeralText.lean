import Mathlib.Algebra.Group.Nat.Defs
import PowerDisasm.Address
import PowerDisasm.Text.Number

/-! # Numerals and their numbers

Hexadecimal digits are read back as the number they stand for, with or without
zeros in front of them. So different numbers have different numerals, and
different addresses different texts. A numeral consists of letters and digits,
and of a minus sign if the number is negative. -/

namespace PowerDisasm

namespace Number

theorem digitValue?_digitChar_toUpper :
    ∀ digit < 16, digitValue? 16 (Nat.digitChar digit).toUpper = some digit := by
  decide

theorem readDigits_append (radix value : Nat) (front back : List Char) :
    readDigits radix value (front ++ back) =
      (readDigits radix value front).bind (readDigits radix · back) := by
  induction front generalizing value with
  | nil => rfl
  | cons character rest induction =>
      rw [List.cons_append, readDigits, readDigits]
      cases digitValue? radix character with
      | none => rfl
      | some digit =>
          dsimp only
          split
          next fits => exact induction _
          next => rfl

theorem readDigits_singleton {radix value digit : Nat} {character : Char}
    (isDigit : digitValue? radix character = some digit)
    (fits : value * radix + digit < 1 <<< 64) :
    readDigits radix value [character] = .ok (value * radix + digit) := by
  simp only [readDigits, isDigit, if_pos fits]

theorem readDigits_toDigits {number : Nat} (fits : number < 1 <<< 64) :
    readDigits 16 0 ((Nat.toDigits 16 number).map Char.toUpper) = .ok number := by
  induction number using Nat.strongRecOn with
  | ind number induction =>
      rw [Nat.toDigits_eq_if (by decide)]
      split
      next small =>
        have isDigit := digitValue?_digitChar_toUpper number small
        have value : 0 * 16 + number = number := by omega
        rw [List.map_singleton, readDigits_singleton isDigit (value.symm ▸ fits), value]
      next large =>
        have isDigit := digitValue?_digitChar_toUpper (number % 16) (Nat.mod_lt _ (by decide))
        have value : number / 16 * 16 + number % 16 = number := Nat.div_add_mod' number 16
        have shorter := induction (number / 16) (by omega) (by omega)
        rw [List.map_append, List.map_singleton, readDigits_append, shorter, Except.bind,
          readDigits_singleton isDigit (value.symm ▸ fits), value]

theorem readDigits_zeros (count : Nat) (digits : List Char) :
    readDigits 16 0 (List.replicate count '0' ++ digits) = readDigits 16 0 digits := by
  induction count with
  | zero => rfl
  | succ count induction => exact induction

/-- What is printed in hexadecimal is read back, however many zeros it has. -/
theorem readDigits_upperHex (width : Nat) {number : Nat} (fits : number < 1 <<< 64) :
    readDigits 16 0 (Numeral.upperHex width number).toList = .ok number := by
  rw [Numeral.upperHex, Numeral.fill, String.toList_ofList, readDigits_zeros,
    readDigits_toDigits fits]

end Number

/-! ## Letters and digits -/

def IsAlphanumeric (text : String) : Prop :=
  text.toList.all Char.isAlphanum = true

instance (text : String) : Decidable (IsAlphanumeric text) :=
  inferInstanceAs (Decidable (_ = true))

namespace IsAlphanumeric

variable {left right : String}

theorem append (leftPlain : IsAlphanumeric left) (rightPlain : IsAlphanumeric right) :
    IsAlphanumeric (left ++ right) := by
  rw [IsAlphanumeric, String.toList_append, List.all_append, leftPlain, rightPlain, Bool.and_self]

theorem notMem (plain : IsAlphanumeric left) {character : Char}
    (sign : character.isAlphanum = false) : character ∉ left.toList := by
  intro member
  rw [List.all_eq_true.mp plain character member] at sign
  cases sign

end IsAlphanumeric

namespace Numeral

theorem isAlphanumeric_decimal (number : Nat) : IsAlphanumeric (decimal number) := by
  apply List.all_eq_true.mpr
  intro character member
  rw [decimal, String.toList_ofList] at member
  have isDigit := Nat.isDigit_of_mem_toDigits (by decide) (by decide) member
  rw [Char.isAlphanum, isDigit, Bool.or_true]

theorem notMem_signed {number : Int} {character : Char} (sign : character.isAlphanum = false)
    (notMinus : character ≠ '-') : character ∉ (signed number).toList := by
  cases number with
  | ofNat number => exact (isAlphanumeric_decimal number).notMem sign
  | negSucc below =>
      have inDigits := (isAlphanumeric_decimal (below + 1)).notMem sign
      simpa [signed, notMinus] using inDigits

theorem isAlphanum_digitChar_toUpper :
    ∀ digit < 16, (Nat.digitChar digit).toUpper.isAlphanum = true := by
  decide

theorem isAlphanum_of_mem_toDigits {number : Nat} :
    ∀ character ∈ Nat.toDigits 16 number, character.toUpper.isAlphanum = true := by
  induction number using Nat.strongRecOn with
  | ind number induction =>
      rw [Nat.toDigits_eq_if (by decide)]
      split
      next small => simpa using isAlphanum_digitChar_toUpper number small
      next large =>
        intro character member
        rw [List.mem_append, List.mem_singleton] at member
        rcases member with member | rfl
        · exact induction (number / 16) (by omega) character member
        · exact isAlphanum_digitChar_toUpper (number % 16) (Nat.mod_lt _ (by decide))

theorem isAlphanumeric_upperHex (width number : Nat) :
    IsAlphanumeric (upperHex width number) := by
  apply List.all_eq_true.mpr
  intro character member
  rw [upperHex, fill, String.toList_ofList, List.mem_append, List.mem_map] at member
  rcases member with zero | ⟨digit, member, rfl⟩
  · rw [List.eq_of_mem_replicate zero]
    rfl
  · exact isAlphanum_of_mem_toDigits digit member

theorem length_upperHex {width number : Nat} (positive : 0 < width)
    (fits : number < 16 ^ width) : (upperHex width number).toList.length = width := by
  have short := (Nat.length_toDigits_le_iff (by decide) positive).mpr fits
  rw [upperHex, fill, String.toList_ofList, List.length_append, List.length_replicate,
    List.length_map]
  omega

/-! ## Different numbers -/

theorem decimal_injective : Function.Injective decimal := by
  intro left right same
  have digits := String.ofList_injective same
  rw [← Nat.ofDigitChars_ten_toDigits (n := left), digits, Nat.ofDigitChars_ten_toDigits]

theorem decimal_ne_minus (number : Nat) (rest : String) : decimal number ≠ "-" ++ rest := by
  intro same
  have unsigned : '-' ∉ (decimal number).toList := (isAlphanumeric_decimal number).notMem rfl
  rw [same, String.toList_append] at unsigned
  exact unsigned (List.mem_append_left _ (by decide))

theorem signed_injective : Function.Injective signed := by
  intro left right same
  cases left with
  | ofNat left =>
      cases right with
      | ofNat right => rw [decimal_injective same]
      | negSucc right => exact absurd same (decimal_ne_minus left _)
  | negSucc left =>
      cases right with
      | ofNat right => exact absurd same.symm (decimal_ne_minus right _)
      | negSucc right =>
          have below := decimal_injective (String.append_right_inj "-" |>.mp same)
          rw [Nat.succ.inj below]

theorem upperHex_inj {width left right : Nat} (leftFits : left < 1 <<< 64)
    (rightFits : right < 1 <<< 64) :
    upperHex width left = upperHex width right ↔ left = right := by
  refine ⟨fun same => ?_, fun same => same ▸ rfl⟩
  have value := Number.readDigits_upperHex width leftFits
  rw [same, Number.readDigits_upperHex width rightFits] at value
  exact (Except.ok.inj value).symm

theorem marked_bits_inj {bits width : Nat} (narrow : bits ≤ 64) {left right : BitVec bits}
    (same : "0x" ++ upperHex width left.toNat = "0x" ++ upperHex width right.toNat) :
    left = right := by
  have fits (word : BitVec bits) : word.toNat < 1 <<< 64 :=
    Nat.lt_of_lt_of_le word.isLt (Nat.pow_le_pow_right (by decide) narrow)
  have digits := (String.append_right_inj "0x").mp same
  exact BitVec.eq_of_toNat_eq ((upperHex_inj (fits left) (fits right)).mp digits)

end Numeral

/-! ## Addresses -/

namespace Address

theorem isAlphanumeric_text (address : Address) : IsAlphanumeric address.text :=
  Numeral.isAlphanumeric_upperHex 8 address.toNat

theorem markedText_injective : Function.Injective markedText := by
  rintro ⟨left⟩ ⟨right⟩ same
  exact congrArg Address.mk (Numeral.marked_bits_inj (Nat.le_refl 64) same)

end Address

end PowerDisasm
