import Mathlib.Data.List.Induction
import PowerDisasm.Proofs.NumeralText

/-! # The grammar of numbers

A number is written with decimal digits, or with hexadecimal ones behind a mark,
and a plus sign may stand in front of the digits. Reading accepts exactly the
texts that denote a number of 64 bits, after blanks at the ends and underscores
are taken away. -/

namespace PowerDisasm

/-! ## Text without blanks at its ends -/

namespace Blank

structure Trimmed (text rest : List Char) : Prop where
  split : ∃ front back, text = front ++ rest ++ back ∧
    ∀ character ∈ front ++ back, contains character = true
  head : ∀ character ∈ rest.head?, contains character = false
  last : ∀ character ∈ rest.getLast?, contains character = false

theorem exists_trimLeft (text : List Char) :
    ∃ front, text = front ++ trimLeft text ∧ ∀ character ∈ front, contains character = true := by
  exact ⟨text.takeWhile contains, List.takeWhile_append_dropWhile.symm,
    List.all_eq_true.mp List.all_takeWhile⟩

theorem not_contains_head_trimLeft (text : List Char) :
    ∀ character ∈ (trimLeft text).head?, contains character = false := by
  intro character isHead
  have notBlank := List.head?_dropWhile_not contains text
  change (trimLeft text).head? = some character at isHead
  unfold trimLeft at isHead
  rw [isHead] at notBlank
  exact notBlank

theorem trimmed_trim (text : List Char) : Trimmed text (trim text) := by
  rcases exists_trimLeft text with ⟨front, split, frontBlank⟩
  rcases exists_trimLeft (trimLeft text).reverse with ⟨back, backSplit, backBlank⟩
  have middle : trimLeft text = trim text ++ back.reverse := by
    rw [← List.reverse_reverse (trimLeft text), backSplit, List.reverse_append]
    rfl
  refine ⟨⟨front, back.reverse, ?_, ?_⟩, ?_, ?_⟩
  · rw [List.append_assoc, ← middle]
    exact split
  · intro character member
    rcases List.mem_append.mp member with inFront | inBack
    · exact frontBlank character inFront
    · exact backBlank character (List.mem_reverse.mp inBack)
  · intro character isHead
    apply not_contains_head_trimLeft text
    rw [middle, List.head?_append, show (trim text).head? = some character from isHead]
    rfl
  · intro character isLast
    rw [trim, List.getLast?_reverse] at isLast
    exact not_contains_head_trimLeft _ character isLast

theorem trimLeft_append {front rest : List Char}
    (blank : ∀ character ∈ front, contains character = true)
    (head : ∀ character ∈ rest.head?, contains character = false) :
    trimLeft (front ++ rest) = rest := by
  rw [trimLeft, List.dropWhile_append_of_pos blank]
  cases rest with
  | nil => rfl
  | cons first others => exact List.dropWhile_cons_of_neg (by simp [head first rfl])

theorem Trimmed.trim_eq {text rest : List Char} (trimmed : Trimmed text rest) :
    trim text = rest := by
  rcases trimmed.split with ⟨front, back, rfl, blank⟩
  have frontBlank : ∀ character ∈ front, contains character = true :=
    fun character member => blank character (List.mem_append_left _ member)
  have backBlank : ∀ character ∈ back, contains character = true :=
    fun character member => blank character (List.mem_append_right _ member)
  cases rest with
  | nil =>
      have all : trimLeft (front ++ back ++ []) = [] := trimLeft_append blank (by simp)
      rw [List.append_nil] at all
      rw [trim, List.append_nil, all]
      rfl
  | cons first others =>
      have notBlank : ∀ character ∈ ((first :: others) ++ back).head?, contains character = false :=
        trimmed.head
      have lastNotBlank : ∀ character ∈ (first :: others).reverse.head?,
          contains character = false := by
        rw [List.head?_reverse]
        exact trimmed.last
      have reversed : ∀ character ∈ back.reverse, contains character = true :=
        fun character member => backBlank character (List.mem_reverse.mp member)
      rw [trim, List.append_assoc, trimLeft_append frontBlank notBlank, List.reverse_append,
        trimLeft_append reversed lastNotBlank, List.reverse_reverse]

theorem trimmed_iff {text rest : List Char} : Trimmed text rest ↔ rest = trim text := by
  constructor
  · exact fun trimmed => trimmed.trim_eq.symm
  · rintro rfl
    exact trimmed_trim text

theorem trimmed_self {text : List Char}
    (visible : ∀ character ∈ text, contains character = false) : Trimmed text text where
  split := ⟨[], [], (List.append_nil _).symm, by simp⟩
  head character isHead := visible character (List.mem_of_mem_head? isHead)
  last character isLast := visible character (List.mem_of_mem_getLast? isLast)

end Blank

namespace Number

/-! ## Digits -/

/-- The character is the digit of a value as it is printed, in either case. -/
def IsDigit (radix : Nat) (character : Char) (value : Nat) : Prop :=
  value < radix ∧ character.toLower = Nat.digitChar value

theorem toNat_toLower (character : Char) :
    character.toLower.toNat =
      if 65 ≤ character.toNat ∧ character.toNat ≤ 90 then character.toNat + 32
      else character.toNat := by
  unfold Char.toLower
  split
  next upper =>
    have bounds : 65 ≤ character.toNat ∧ character.toNat ≤ 90 := upper
    rw [if_pos bounds]
    change (character.val + 32).toNat = character.toNat + 32
    rw [UInt32.toNat_add]
    change (character.toNat + 32) % 2 ^ 32 = _
    omega
  next other => exact (if_neg other).symm

theorem toNat_digitChar :
    ∀ value < 16, (Nat.digitChar value).toNat = if value < 10 then 48 + value else 87 + value := by
  decide

theorem isDigit_iff {radix value : Nat} {character : Char} (small : radix ≤ 16) :
    IsDigit radix character value ↔ value < radix ∧
      ((character.toNat ≤ 57 ∧ character.toNat = 48 + value) ∨
       (65 ≤ character.toNat ∧ character.toNat ≤ 90 ∧ character.toNat = 55 + value) ∨
       (97 ≤ character.toNat ∧ character.toNat = 87 + value)) := by
  apply and_congr_right
  intro bound
  rw [← Char.toNat_inj, toNat_toLower, toNat_digitChar value (by omega)]
  split <;> split <;> omega

theorem digitValue?_eq_some_iff {radix value : Nat} {character : Char} (small : radix ≤ 16) :
    digitValue? radix character = some value ↔ IsDigit radix character value := by
  have range (low high : Char) : low ≤ character ∧ character ≤ high ↔
      low.toNat ≤ character.toNat ∧ character.toNat ≤ high.toNat := Iff.rfl
  rw [isDigit_iff small, digitValue?, Option.filter_eq_some_iff, decide_eq_true_iff, and_comm]
  simp only [range, Char.reduceToNat]
  apply and_congr_right
  intro bound
  split
  next decimal => rw [Option.some.injEq]; omega
  next notDecimal =>
    split
    next lower => rw [Option.some.injEq]; omega
    next notLower =>
      split
      next upper => rw [Option.some.injEq]; omega
      next notUpper => simp only [reduceCtorEq, false_iff]; omega

inductive Digits (radix : Nat) : List Char → Nat → Prop where
  | single {character : Char} {value : Nat} (isDigit : IsDigit radix character value) :
      Digits radix [character] value
  | more {front : List Char} {character : Char} {value last : Nat}
      (before : Digits radix front value) (isDigit : IsDigit radix character last) :
      Digits radix (front ++ [character]) (value * radix + last)

variable {radix number : Nat} {digits text : List Char}

/-! ## Reading digits -/

theorem readDigits_singleton_iff {value : Nat} {character : Char} (small : radix ≤ 16) :
    readDigits radix value [character] = .ok number ↔
      ∃ digit, IsDigit radix character digit ∧ number = value * radix + digit ∧
        number < 2 ^ 64 := by
  simp only [← digitValue?_eq_some_iff small, readDigits]
  cases digitValue? radix character with
  | none => simp
  | some digit =>
      simp only [Option.some.injEq, exists_eq_left', Nat.one_shiftLeft]
      split
      next fits =>
        rw [Except.ok.injEq, eq_comm]
        exact (and_iff_left_of_imp fun same => same ▸ fits).symm
      next tooLarge =>
        simp only [reduceCtorEq, false_iff, not_and]
        exact fun same => same ▸ tooLarge

theorem readDigits_append_singleton_iff {front : List Char} {character : Char}
    (small : radix ≤ 16) :
    readDigits radix 0 (front ++ [character]) = .ok number ↔
      ∃ value digit, readDigits radix 0 front = .ok value ∧ IsDigit radix character digit ∧
        number = value * radix + digit ∧ number < 2 ^ 64 := by
  rw [readDigits_append]
  cases readDigits radix 0 front with
  | error fault => simp [Except.bind]
  | ok value =>
      change readDigits radix value [character] = .ok number ↔ _
      rw [readDigits_singleton_iff small]
      simp

theorem readDigits_eq_ok_iff (small : radix ≤ 16) (nonempty : digits ≠ []) :
    readDigits radix 0 digits = .ok number ↔ Digits radix digits number ∧ number < 2 ^ 64 := by
  constructor
  · intro read
    induction digits using List.reverseRecOn generalizing number with
    | nil => exact absurd rfl nonempty
    | append_singleton front character induction =>
        rcases (readDigits_append_singleton_iff small).mp read with
          ⟨value, digit, readFront, isDigit, rfl, fits⟩
        refine ⟨?_, fits⟩
        cases front with
        | nil =>
            cases readFront
            rw [Nat.zero_mul, Nat.zero_add]
            exact .single isDigit
        | cons first rest =>
            exact .more (induction (List.cons_ne_nil _ _) readFront).1 isDigit
  · rintro ⟨isNumber, fits⟩
    clear nonempty
    induction isNumber with
    | @single character value isDigit =>
        have empty : readDigits radix 0 [] = .ok 0 := rfl
        have sum : value = 0 * radix + value := by omega
        change readDigits radix 0 ([] ++ [character]) = .ok value
        exact (readDigits_append_singleton_iff small).mpr ⟨0, value, empty, isDigit, sum, fits⟩
    | @more front character value last before isDigit induction =>
        have positive : 0 < radix := Nat.zero_lt_of_lt isDigit.1
        have smaller : value ≤ value * radix := Nat.le_mul_of_pos_right value positive
        exact (readDigits_append_singleton_iff small).mpr
          ⟨value, last, induction (by omega), isDigit, rfl, fits⟩

namespace Digits

theorem ne_nil (isNumber : Digits radix digits number) : digits ≠ [] := by
  cases isNumber with
  | single => exact List.cons_ne_nil _ _
  | more => exact List.append_ne_nil_of_right_ne_nil _ (List.cons_ne_nil _ _)

theorem exists_isDigit (isNumber : Digits radix digits number) :
    ∀ character ∈ digits, ∃ value, IsDigit radix character value := by
  induction isNumber with
  | single isDigit =>
      intro character member
      rw [List.mem_singleton.mp member]
      exact ⟨_, isDigit⟩
  | more before isDigit induction =>
      intro character member
      rcases List.mem_append.mp member with inFront | isLast
      · exact induction character inFront
      · rw [List.mem_singleton.mp isLast]
        exact ⟨_, isDigit⟩

theorem notMem (isNumber : Digits radix digits number) {character : Char}
    (sign : ∀ value, ¬ IsDigit radix character value) : character ∉ digits := by
  intro member
  rcases isNumber.exists_isDigit character member with ⟨value, isDigit⟩
  exact sign value isDigit

end Digits

/-! ## Signs and marks -/

theorem plus_not_isDigit (small : radix ≤ 16) (value : Nat) : ¬ IsDigit radix '+' value := by
  rw [isDigit_iff small]
  simp only [Char.reduceToNat]
  omega

inductive Signed (radix : Nat) : List Char → Nat → Prop where
  | plain {digits : List Char} {number : Nat} (isNumber : Digits radix digits number) :
      Signed radix digits number
  | plus {digits : List Char} {number : Nat} (isNumber : Digits radix digits number) :
      Signed radix ('+' :: digits) number

theorem signed_plus_iff (small : radix ≤ 16) :
    Signed radix ('+' :: digits) number ↔ Digits radix digits number := by
  constructor
  · intro signed
    cases signed with
    | plain isNumber => exact absurd List.mem_cons_self (isNumber.notMem (plus_not_isDigit small))
    | plus isNumber => exact isNumber
  · exact .plus

theorem readUnsigned_eq_ok_iff (small : radix ≤ 16) :
    readUnsigned radix text = .ok number ↔ Signed radix text number ∧ number < 2 ^ 64 := by
  unfold readUnsigned
  split
  next =>
    simp only [reduceCtorEq, false_iff, not_and]
    intro signed
    cases signed with
    | plain isNumber => exact absurd rfl isNumber.ne_nil
  next =>
    rw [signed_plus_iff small]
    simp only [reduceCtorEq, false_iff, not_and]
    exact fun isNumber => absurd rfl isNumber.ne_nil
  next digits notAlone =>
    have nonempty : digits ≠ [] := fun empty => notAlone (empty ▸ rfl)
    rw [signed_plus_iff small, readDigits_eq_ok_iff small nonempty]
  next nonempty _ unsigned =>
    rw [readDigits_eq_ok_iff small nonempty]
    apply and_congr_left
    intro _
    constructor
    · exact .plain
    · intro signed
      cases signed with
      | plain isNumber => exact isNumber
      | plus isNumber => exact absurd rfl (unsigned _)

/-- Texts that denote a number: hexadecimal digits behind a mark, or decimal
digits, with or without a plus sign in front of them. -/
inductive Denotes : List Char → Nat → Prop where
  | hexadecimal {mark : Char} {text : List Char} {number : Nat} (isMark : mark = 'x' ∨ mark = 'X')
      (isNumber : Signed 16 text number) : Denotes ('0' :: mark :: text) number
  | decimal {text : List Char} {number : Nat} (isNumber : Signed 10 text number) :
      Denotes text number

theorem mark_not_isDigit {mark : Char} (isMark : mark = 'x' ∨ mark = 'X') (value : Nat) :
    ¬ IsDigit 10 mark value := by
  rw [isDigit_iff (by decide)]
  rcases isMark with rfl | rfl <;> simp only [Char.reduceToNat] <;> omega

theorem denotes_marked_iff {mark : Char} (isMark : mark = 'x' ∨ mark = 'X') :
    Denotes ('0' :: mark :: text) number ↔ Signed 16 text number := by
  constructor
  · intro denotes
    cases denotes with
    | hexadecimal _ isNumber => exact isNumber
    | decimal isNumber =>
        cases isNumber with
        | plain isNumber =>
            have member : mark ∈ '0' :: mark :: text := List.mem_cons_of_mem _ List.mem_cons_self
            exact absurd member (isNumber.notMem (mark_not_isDigit isMark))
  · exact .hexadecimal isMark

theorem readNormalized_eq_ok_iff :
    readNormalized text = .ok number ↔ Denotes text number ∧ number < 2 ^ 64 := by
  unfold readNormalized
  split
  next => rw [readUnsigned_eq_ok_iff (by decide), denotes_marked_iff (.inl rfl)]
  next => rw [readUnsigned_eq_ok_iff (by decide), denotes_marked_iff (.inr rfl)]
  next notSmall notLarge =>
    rw [readUnsigned_eq_ok_iff (by decide)]
    apply and_congr_left
    intro _
    constructor
    · exact .decimal
    · intro denotes
      cases denotes with
      | hexadecimal isMark _ =>
          rcases isMark with rfl | rfl
          · exact absurd rfl (notSmall _)
          · exact absurd rfl (notLarge _)
      | decimal isNumber => exact isNumber

theorem parse_eq_ok_iff_normalize {text : String} :
    parse text = .ok number ↔ Denotes (normalize text) number ∧ number < 2 ^ 64 := by
  rw [← readNormalized_eq_ok_iff, parse]
  cases readNormalized (normalize text) with
  | ok value => simp only [Except.ok.injEq]
  | error fault => simp only [reduceCtorEq]

/-! ## Printed numbers -/

theorem not_contains_of_isDigit {character : Char} {value : Nat} (small : radix ≤ 16)
    (isDigit : IsDigit radix character value) : Blank.contains character = false := by
  rw [isDigit_iff small] at isDigit
  simp only [Blank.contains, Bool.or_eq_false_iff, Bool.and_eq_false_imp, decide_eq_true_eq,
    decide_eq_false_iff_not]
  omega

theorem Signed.not_contains (small : radix ≤ 16) (signed : Signed radix text number) :
    ∀ character ∈ text, Blank.contains character = false := by
  have visible {digits : List Char} (isNumber : Digits radix digits number) :
      ∀ character ∈ digits, Blank.contains character = false := by
    intro character member
    rcases isNumber.exists_isDigit character member with ⟨value, isDigit⟩
    exact not_contains_of_isDigit small isDigit
  cases signed with
  | plain isNumber => exact visible isNumber
  | plus isNumber => exact List.forall_mem_cons.mpr ⟨rfl, visible isNumber⟩

theorem Denotes.not_contains (denotes : Denotes text number) :
    ∀ character ∈ text, Blank.contains character = false := by
  cases denotes with
  | hexadecimal isMark isNumber =>
      refine List.forall_mem_cons.mpr ⟨rfl, List.forall_mem_cons.mpr
        ⟨?_, isNumber.not_contains (by decide)⟩⟩
      rcases isMark with rfl | rfl <;> rfl
  | decimal isNumber => exact isNumber.not_contains (by decide)

theorem parse_of_denotes {text : String}
    (denotes : Denotes (text.toList.filter (· ≠ '_')) number) (fits : number < 2 ^ 64) :
    parse text = .ok number := by
  have visible : ∀ character ∈ text.toList, Blank.contains character = false := by
    intro character member
    by_cases underscore : character = '_'
    · rw [underscore]
      rfl
    · exact denotes.not_contains character
        (List.mem_filter.mpr ⟨member, decide_eq_true underscore⟩)
  rw [parse_eq_ok_iff_normalize, normalize, (Blank.trimmed_self visible).trim_eq]
  exact ⟨denotes, fits⟩

theorem Digits.zero (positive : 0 < radix) (isNumber : Digits radix digits number) :
    Digits radix ('0' :: digits) number := by
  have isZero : IsDigit radix '0' 0 := ⟨positive, rfl⟩
  induction isNumber with
  | @single character value isDigit =>
      have value : 0 * radix + value = value := by omega
      rw [← value]
      exact .more (.single isZero) isDigit
  | more _ isDigit induction => exact .more induction isDigit

theorem Digits.zeros (positive : 0 < radix) (isNumber : Digits radix digits number) :
    ∀ count, Digits radix (List.replicate count '0' ++ digits) number
  | 0 => isNumber
  | count + 1 => (isNumber.zeros positive count).zero positive

theorem toLower_toLower (character : Char) : character.toLower.toLower = character.toLower := by
  have lower := toNat_toLower character
  rw [← Char.toNat_inj, toNat_toLower]
  split at lower <;> split <;> omega

theorem Digits.of_map_toLower (isNumber : Digits radix (digits.map Char.toLower) number) :
    Digits radix digits number := by
  have raised {character lowered : Char} {value : Nat} (lower : character.toLower = lowered)
      (isDigit : IsDigit radix lowered value) : IsDigit radix character value := by
    rw [IsDigit, ← lower, toLower_toLower] at isDigit
    exact isDigit
  generalize same : digits.map Char.toLower = lowered at isNumber
  induction isNumber generalizing digits with
  | single isDigit =>
      rcases List.map_eq_singleton_iff.mp same with ⟨character, rfl, lower⟩
      exact .single (raised lower isDigit)
  | more _ isDigit induction =>
      rcases List.map_eq_append_iff.mp same with ⟨front, back, rfl, frontSame, backSame⟩
      rcases List.map_eq_singleton_iff.mp backSame with ⟨character, rfl, lower⟩
      exact .more (induction frontSame) (raised lower isDigit)

theorem toLower_digitChar : ∀ value < 16, (Nat.digitChar value).toLower = Nat.digitChar value := by
  decide

theorem digits_toDigits (large : 1 < radix) (small : radix ≤ 16) (number : Nat) :
    Digits radix (Nat.toDigits radix number) number := by
  have isDigit {value : Nat} (bound : value < radix) :
      IsDigit radix (Nat.digitChar value) value :=
    ⟨bound, toLower_digitChar value (by omega)⟩
  induction number using Nat.strongRecOn with
  | ind number induction =>
      rw [Nat.toDigits_eq_if large]
      split
      next one => exact .single (isDigit one)
      next more =>
        have shorter := induction (number / radix) (Nat.div_lt_self (by omega) large)
        have value : number / radix * radix + number % radix = number := Nat.div_add_mod' _ _
        have digits := Digits.more shorter (isDigit (Nat.mod_lt number (by omega)))
        rwa [value] at digits

/-- Exactly the texts that denote a number of 64 bits are read, as this number,
once the blanks at their ends and then the underscores are taken away. So a
number is read from its decimal digits and, behind a mark, from its hexadecimal
digits in either case, with any zeros in front and underscores anywhere. -/
theorem parse_iff_denotes (text : String) (number : Nat) :
    (parse text = .ok number ↔ ∃ counted, Blank.Trimmed text.toList counted ∧
      Denotes (counted.filter (· ≠ '_')) number ∧ number < 2 ^ 64) ∧
    (number < 2 ^ 64 → ∀ zeros,
      (text.toList.filter (· ≠ '_') =
        List.replicate zeros '0' ++ (Numeral.decimal number).toList → parse text = .ok number) ∧
      ∀ mark digits, (mark = 'x' ∨ mark = 'X') →
        digits.map Char.toLower = (Numeral.hex number).toList →
        text.toList.filter (· ≠ '_') = '0' :: mark :: (List.replicate zeros '0' ++ digits) →
        parse text = .ok number) := by
  refine ⟨?_, fun fits zeros => ⟨fun written => ?_, fun mark digits isMark lower written => ?_⟩⟩
  · simp only [Blank.trimmed_iff, exists_eq_left]
    exact parse_eq_ok_iff_normalize
  · apply parse_of_denotes _ fits
    rw [written, Numeral.decimal, String.toList_ofList]
    have isNumber := digits_toDigits (by decide : 1 < 10) (by decide) number
    exact .decimal (.plain (isNumber.zeros (by decide) zeros))
  · apply parse_of_denotes _ fits
    have isNumber : Digits 16 digits number := by
      apply Digits.of_map_toLower
      rw [lower, Numeral.hex, String.toList_ofList]
      exact digits_toDigits (by decide) (by decide) number
    rw [written]
    exact .hexadecimal isMark (.plain (isNumber.zeros (by decide) zeros))

end Number

end PowerDisasm
