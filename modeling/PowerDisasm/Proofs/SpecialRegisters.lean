import PowerDisasm.Register.Catalog

/-! # Names of special-purpose registers

The name that is entered last for a number is the one that is found. No model
gives a new name to a register that all models share, so a number has a name on
a model exactly if it is a shared one or one of the model's own. -/

namespace PowerDisasm

namespace SpecialNames

theorem lookup_cons_eq_ite (entry : Nat × String) (rest : List (Nat × String)) (key : Nat) :
    (entry :: rest).lookup key = if key = entry.1 then some entry.2 else rest.lookup key := by
  rw [List.lookup_cons]
  by_cases same : key = entry.1
  · rw [beq_iff_eq.mpr same, if_pos same]
  · rw [beq_eq_false_iff_ne.mpr same, if_neg same]

theorem lookup_insertEntry (number key : Nat) (name : String) (entries : List (Nat × String)) :
    (insertEntry number name entries).lookup key =
      if key = number then some name else entries.lookup key := by
  induction entries with
  | nil => rw [insertEntry, lookup_cons_eq_ite]
  | cons entry rest induction =>
      rw [insertEntry]
      split
      next before => rw [lookup_cons_eq_ite]
      next notBefore =>
        split
        next equal =>
          rw [lookup_cons_eq_ite, lookup_cons_eq_ite, ← equal]
          split <;> rfl
        next different =>
          rw [lookup_cons_eq_ite, lookup_cons_eq_ite, induction]
          by_cases same : key = number
          · rw [same, if_neg different, if_pos rfl, if_pos rfl]
          · rw [if_neg same, if_neg same]

theorem name?_insert (specials : SpecialNames) (number key : Nat) (name : String) :
    (specials.insert number name).name? key =
      if key = number then some name else specials.name? key :=
  lookup_insertEntry number key name specials.entries

/-- Of the names entered for a number the last one counts, and the one it had
before only if none is entered. -/
theorem name?_insertAll (specials : SpecialNames) (added : List (Nat × String)) (key : Nat) :
    (specials.insertAll added).name? key =
      (added.reverse.lookup key).or (specials.name? key) := by
  induction added generalizing specials with
  | nil => rfl
  | cons entry rest induction =>
      have folded : specials.insertAll (entry :: rest) =
          (specials.insert entry.1 entry.2).insertAll rest := rfl
      rw [folded, induction, name?_insert, List.reverse_cons, List.lookup_append, Option.or_assoc,
        lookup_cons_eq_ite]
      split <;> rfl

/-! ## Tables without repeated numbers -/

theorem lookup_eq_some_iff {entries : List (Nat × String)}
    (nodup : (entries.map (·.1)).Nodup) {key : Nat} {name : String} :
    entries.lookup key = some name ↔ (key, name) ∈ entries := by
  induction entries with
  | nil => simp
  | cons entry rest induction =>
      rcases List.nodup_cons.mp nodup with ⟨fresh, restNodup⟩
      rw [lookup_cons_eq_ite, List.mem_cons, Prod.ext_iff]
      by_cases same : key = entry.1
      · have notInRest : (key, name) ∉ rest := fun member =>
          fresh (List.mem_map.mpr ⟨_, member, same⟩)
        simp [same, same ▸ notInRest, eq_comm]
      · simp [same, induction restNodup]

theorem lookup_reverse {entries : List (Nat × String)} (nodup : (entries.map (·.1)).Nodup)
    (key : Nat) : entries.reverse.lookup key = entries.lookup key := by
  have reversed : (entries.reverse.map (·.1)).Nodup :=
    (entries.reverse_perm.map _).nodup_iff.mpr nodup
  apply Option.ext
  intro name
  rw [lookup_eq_some_iff reversed, lookup_eq_some_iff nodup, List.mem_reverse]

end SpecialNames

/-! ## The names of a model -/

namespace Model

theorem extraSpecials_nodup (model : Model) : (model.extraSpecials.map (·.1)).Nodup := by
  cases model <;> decide

theorem extraSpecials_not_shared (model : Model) :
    ∀ entry ∈ model.extraSpecials, SpecialNames.shared.name? entry.1 = none := by
  cases model <;> decide

theorem name?_ofModel (model : Model) (number : Nat) :
    (RegisterCatalog.ofModel model).specials.name? number =
      (model.extraSpecials.lookup number).or (SpecialNames.shared.name? number) := by
  rw [RegisterCatalog.ofModel, SpecialNames.name?_insertAll,
    SpecialNames.lookup_reverse model.extraSpecials_nodup]

end Model

end PowerDisasm
