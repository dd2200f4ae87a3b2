import Mathlib.Data.List.Dedup
import Mathlib.Tactic.IntervalCases
import PowerDisasm.DecodeState
import PowerDisasm.Proofs.SpecialRegisters

/-! # Tables of special-purpose registers

However names are entered in a table, it stays in ascending order and has each
number once, so any search finds the one entry of a number. Its name is the one
entered last. The step that reads a special-purpose register looks its number
up there. -/

namespace PowerDisasm

namespace SpecialNames

variable {specials : SpecialNames} {entries added : List (Nat × String)} {number key : Nat}
  {name : String}

def numbers (entries : List (Nat × String)) : List Nat :=
  entries.map (·.1)

theorem numbers_cons (number : Nat) (name : String) (rest : List (Nat × String)) :
    numbers ((number, name) :: rest) = number :: numbers rest :=
  rfl

theorem numbers_append (front back : List (Nat × String)) :
    numbers (front ++ back) = numbers front ++ numbers back :=
  List.map_append

/-! ## Entering names -/

theorem mem_numbers_insertEntry :
    key ∈ numbers (insertEntry number name entries) ↔ key = number ∨ key ∈ numbers entries := by
  induction entries with
  | nil => exact List.mem_cons
  | cons entry rest induction =>
      rcases entry with ⟨other, otherName⟩
      rw [insertEntry]
      split
      next => exact List.mem_cons
      next =>
        split
        next equal =>
          rw [show number = other from equal, numbers_cons, numbers_cons, List.mem_cons,
            or_self_left]
        next =>
          rw [numbers_cons, numbers_cons, List.mem_cons, List.mem_cons, induction]
          exact or_left_comm

theorem ascending_insertEntry (number : Nat) (name : String)
    (ascending : (numbers entries).Pairwise (· < ·)) :
    (numbers (insertEntry number name entries)).Pairwise (· < ·) := by
  induction entries with
  | nil => exact List.pairwise_singleton _ _
  | cons entry rest induction =>
      rcases entry with ⟨other, otherName⟩
      rw [numbers_cons] at ascending
      rcases List.pairwise_cons.mp ascending with ⟨least, restAscending⟩
      rw [insertEntry]
      split
      next before =>
        rw [numbers_cons, numbers_cons]
        exact List.pairwise_cons.mpr ⟨List.forall_mem_cons.mpr
          ⟨before, fun key member => Nat.lt_trans before (least key member)⟩, ascending⟩
      next notBefore =>
        split
        next equal =>
          rw [show number = other from equal, numbers_cons]
          exact ascending
        next different =>
          rw [numbers_cons]
          refine List.pairwise_cons.mpr ⟨fun key member => ?_, induction restAscending⟩
          rcases mem_numbers_insertEntry.mp member with rfl | inRest
          · exact Nat.lt_of_le_of_ne (Nat.le_of_not_lt notBefore) (Ne.symm different)
          · exact least key inRest

theorem ascending_insertAll (ascending : (numbers specials.entries).Pairwise (· < ·))
    (added : List (Nat × String)) :
    (numbers (specials.insertAll added).entries).Pairwise (· < ·) := by
  induction added generalizing specials with
  | nil => exact ascending
  | cons entry rest induction =>
      exact induction (ascending_insertEntry entry.1 entry.2 ascending)

theorem mem_numbers_insertAll :
    key ∈ numbers (specials.insertAll added).entries ↔
      key ∈ numbers (specials.entries ++ added) := by
  induction added generalizing specials with
  | nil =>
      rw [List.append_nil]
      exact Iff.rfl
  | cons entry rest induction =>
      rcases entry with ⟨number, name⟩
      have inserted : key ∈ numbers (specials.insert number name).entries ↔
          key = number ∨ key ∈ numbers specials.entries := mem_numbers_insertEntry
      change key ∈ numbers ((specials.insert number name).insertAll rest).entries ↔ _
      rw [induction, numbers_append, numbers_append, numbers_cons, List.mem_append,
        List.mem_append, List.mem_cons, inserted, or_assoc]
      exact or_left_comm

theorem size_insertAll (ascending : (numbers specials.entries).Pairwise (· < ·))
    (added : List (Nat × String)) :
    (specials.insertAll added).size = (numbers (specials.entries ++ added)).dedup.length := by
  have nodup : (numbers (specials.insertAll added).entries).Nodup :=
    (ascending_insertAll ascending added).imp Nat.ne_of_lt
  have perm : (numbers (specials.insertAll added).entries).Perm
      (numbers (specials.entries ++ added)).dedup := by
    rw [List.perm_ext_iff_of_nodup nodup (List.nodup_dedup _)]
    intro key
    rw [List.mem_dedup, mem_numbers_insertAll]
  rw [← perm.length_eq]
  exact (List.length_map _).symm

/-! ## Finding names -/

/-- The name that was entered last for a number, or that the number has among
the shared ones if none was entered for it. -/
inductive LastNamed (added : List (Nat × String)) (number : Nat) (name : String) : Prop where
  | added (front back : List (Nat × String)) (split : added = front ++ (number, name) :: back)
      (last : number ∉ numbers back)
  | shared (notAdded : number ∉ numbers added) (isShared : (number, name) ∈ shared.entries)

theorem LastNamed.lt (named : LastNamed added number name)
    (small : ∀ key ∈ numbers added, key < 2 ^ 16) : number < 2 ^ 16 := by
  have sharedSmall : ∀ entry ∈ SpecialNames.shared.entries, entry.1 < 2 ^ 16 := by decide
  cases named with
  | added front back split last =>
      apply small
      rw [split, numbers_append, numbers_cons]
      exact List.mem_append_right _ List.mem_cons_self
  | shared notAdded isShared => exact sharedSmall _ isShared

theorem notMem_numbers_iff :
    number ∉ numbers entries ↔ ∀ entry ∈ entries, (number != entry.1) = true := by
  simp only [numbers, List.mem_map, not_exists, not_and, bne_iff_ne]
  exact forall₂_congr fun entry _ => not_congr eq_comm

theorem lookup_eq_none_iff : entries.lookup number = none ↔ number ∉ numbers entries := by
  rw [List.lookup_eq_none_iff, notMem_numbers_iff]

theorem lookup_reverse_eq_some_iff :
    added.reverse.lookup number = some name ↔
      ∃ front back, added = front ++ (number, name) :: back ∧ number ∉ numbers back := by
  simp only [List.lookup_eq_some_iff, ← notMem_numbers_iff]
  constructor
  · rintro ⟨behind, front, split, last⟩
    refine ⟨front.reverse, behind.reverse, ?_, ?_⟩
    · rw [← List.reverse_reverse added, split]
      simp
    · rwa [numbers, List.map_reverse, List.mem_reverse]
  · rintro ⟨front, back, rfl, last⟩
    refine ⟨back.reverse, front.reverse, by simp, ?_⟩
    rwa [numbers, List.map_reverse, List.mem_reverse]

theorem shared_ascending : (numbers shared.entries).Pairwise (· < ·) := by
  decide

theorem name?_eq_some_iff_mem (ascending : (numbers specials.entries).Pairwise (· < ·)) :
    specials.name? number = some name ↔ (number, name) ∈ specials.entries :=
  lookup_eq_some_iff (ascending.imp Nat.ne_of_lt)

theorem name?_insertAll_eq_some_iff :
    (shared.insertAll added).name? number = some name ↔ LastNamed added number name := by
  have isShared : shared.name? number = some name ↔ (number, name) ∈ shared.entries :=
    name?_eq_some_iff_mem shared_ascending
  have notAdded : added.reverse.lookup number = none ↔ number ∉ numbers added := by
    rw [lookup_eq_none_iff, numbers, List.map_reverse, List.mem_reverse, numbers]
  rw [name?_insertAll, Option.or_eq_some_iff, lookup_reverse_eq_some_iff, notAdded, isShared]
  constructor
  · rintro (⟨front, back, split, last⟩ | ⟨none, shared⟩)
    · exact .added front back split last
    · exact .shared none shared
  · rintro (⟨front, back, split, last⟩ | ⟨none, shared⟩)
    · exact .inl ⟨front, back, split, last⟩
    · exact .inr ⟨none, shared⟩

end SpecialNames

namespace DecodeStep

/-- The number of a special-purpose register has its low half in bits 16 to 20
and its high half in bits 11 to 15. -/
theorem specialNumber_eq (word : Word) :
    specialNumber word =
      word.toNat / 2 ^ 16 % 2 ^ 5 + 2 ^ 5 * (word.toNat / 2 ^ 11 % 2 ^ 5) := by
  have high : (word >>> 6) &&& 0x3E0#32 = ((word >>> 11) &&& 0x1F#32) <<< 5 := by
    ext index bound
    interval_cases index <;> simp
  have half (count : Nat) :
      ((word >>> count) &&& 0x1F#32).toNat = word.toNat / 2 ^ count % 2 ^ 5 := by
    rw [BitVec.toNat_and, BitVec.toNat_ushiftRight, Nat.shiftRight_eq_div_pow]
    exact Nat.and_two_pow_sub_one_eq_mod _ 5
  have lowBound : word.toNat / 2 ^ 16 % 2 ^ 5 < 2 ^ 5 := Nat.mod_lt _ (by decide)
  have fits : 2 ^ 5 * (word.toNat / 2 ^ 11 % 2 ^ 5) < 2 ^ 32 := by omega
  change (((word >>> 16) &&& 0x1F#32) ||| ((word >>> 6) &&& 0x3E0#32)).toNat = _
  rw [high, BitVec.toNat_or, BitVec.toNat_shiftLeft, half, half, Nat.shiftLeft_eq,
    Nat.mul_comm (_ % 2 ^ 5), Nat.mod_eq_of_lt fits, Nat.or_comm,
    ← Nat.two_pow_add_eq_or_of_lt lowBound, Nat.add_comm]

def numberedOperand (number : Nat) : Option String → Operand
  | some name => .register (.special number (some name))
  | none => .immediate (.unsigned32 (BitVec.ofNat 32 number))

theorem specialOperand_eq (registers : RegisterCatalog) (number : Nat) :
    specialOperand registers number =
      numberedOperand number (registers.specials.name? number) := by
  unfold specialOperand RegisterCatalog.special?
  cases registers.specials.name? number <;> rfl

end DecodeStep

namespace RegisterCatalog

open SpecialNames (numbers LastNamed shared)

theorem specials_of_ofVectorCount {count : Nat} {catalog : RegisterCatalog}
    (built : ofVectorCount count = .ok catalog) : catalog.specials = .shared := by
  unfold ofVectorCount at built
  split at built
  next => cases built; rfl
  next => cases built

theorem specials_foldl_withSpecials (catalog : RegisterCatalog)
    (lists : List (List (Nat × String))) :
    (lists.foldl withSpecials catalog).specials =
      catalog.specials.insertAll lists.flatten := by
  induction lists generalizing catalog with
  | nil => rfl
  | cons list rest induction =>
      rw [List.foldl_cons, induction, List.flatten_cons, SpecialNames.insertAll,
        SpecialNames.insertAll, List.foldl_append]
      rfl

/-- Whatever lists of names are added to a catalog, its table is in ascending
order, has one entry for each number, and names a number as it was named last.
The step for special-purpose registers reads a number from two halves of a word,
and names the register if its number has a name. -/
theorem specials_afterAdditions {count : Nat} {start : RegisterCatalog}
    (built : ofVectorCount count = .ok start) (lists : List (List (Nat × String))) :
    let catalog := lists.foldl withSpecials start
    (numbers catalog.specials.entries).Pairwise (· < ·) ∧
      catalog.specialCount = (numbers (shared.entries ++ lists.flatten)).dedup.length ∧
      (∀ number name, catalog.specials.name? number = some name ↔
        (number, name) ∈ catalog.specials.entries) ∧
      (∀ number name, catalog.specials.name? number = some name ↔
        LastNamed lists.flatten number name) ∧
      ((∀ number ∈ numbers lists.flatten, number < 2 ^ 16) →
        ∀ number, 2 ^ 16 ≤ number → catalog.specials.name? number = none) ∧
      ∀ state : DecodeState, state.site.registers = catalog → ∀ word : Word,
        let number := word.toNat / 2 ^ 16 % 2 ^ 5 + 2 ^ 5 * (word.toNat / 2 ^ 11 % 2 ^ 5)
        state.takeStep? word .special = some { state with
          operands := state.operands ++
            [DecodeStep.numberedOperand number (catalog.specials.name? number)] } := by
  intro catalog
  have specials : catalog.specials = shared.insertAll lists.flatten := by
    rw [specials_foldl_withSpecials, specials_of_ofVectorCount built]
  have ascending : (numbers catalog.specials.entries).Pairwise (· < ·) := by
    rw [specials]
    exact SpecialNames.ascending_insertAll SpecialNames.shared_ascending _
  refine ⟨ascending, ?_, fun number name => SpecialNames.name?_eq_some_iff_mem ascending,
    ?_, ?_, ?_⟩
  · rw [specialCount, specials, SpecialNames.size_insertAll SpecialNames.shared_ascending]
  · intro number name
    rw [specials]
    exact SpecialNames.name?_insertAll_eq_some_iff
  · intro small number large
    rw [Option.eq_none_iff_forall_ne_some]
    intro name named
    rw [specials, SpecialNames.name?_insertAll_eq_some_iff] at named
    exact Nat.not_lt_of_le large (named.lt small)
  · intro state held word number
    have isNumber : number = DecodeStep.specialNumber word :=
      (DecodeStep.specialNumber_eq word).symm
    rw [isNumber, ← held, ← DecodeStep.specialOperand_eq]
    rfl

/-- Two lists, not in order: one gives a name to a number twice, the other names
a number that is shared. -/
theorem specials_afterAdditions_renamed :
    let start : RegisterCatalog := ⟨5, .shared⟩
    let lists := [[(1012, "hid4"), (9, "count"), (1012, "hid5")], [(3, "low")]]
    ofVectorCount 32 = .ok start ∧
      (lists.foldl withSpecials start).specialCount = 42 ∧
      (lists.foldl withSpecials start).specials.name? 1012 = some "hid5" := by
  intro start lists
  have built : ofVectorCount 32 = .ok start := rfl
  rcases specials_afterAdditions built lists with ⟨_, count, _, named, _, _⟩
  refine ⟨built, count.trans (by decide), (named 1012 "hid5").mpr ?_⟩
  exact .added [(1012, "hid4"), (9, "count")] [(3, "low")] rfl (by decide)

end RegisterCatalog

end PowerDisasm
