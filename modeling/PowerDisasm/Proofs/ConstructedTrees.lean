import PowerDisasm.Proofs.FormEncodings
import PowerDisasm.Proofs.NodePlaces

/-! # Constructed trees

In a constructed tree, no node has more entries than its key has values, and no
value is listed twice. Each form then has a place of its own, and the first turn
of the place tells the values of the key that lead to the branch of the form. -/

namespace PowerDisasm.DecodeTree

variable {Form : Type}

/-! ## Rules of construction -/

/-- All nodes of the tree keep to the rules of their construction. -/
inductive Constructed : DecodeTree Form → Prop where
  | form (found : Form) : Constructed (.form found)
  | invalid : Constructed .invalid
  | unsupported (message : String) : Constructed (.unsupported message)
  | dense {key : List Field} {entries : List (DecodeTree Form)}
      (made : ofEntries key entries = .ok (.dense key entries))
      (entriesConstructed : ∀ entry ∈ entries, Constructed entry) :
      Constructed (.dense key entries)
  | sparse {key : List Field} {listed : List (Nat × DecodeTree Form)}
      {fallback : DecodeTree Form}
      (made : ofListed key fallback listed = .ok (.sparse key listed fallback))
      (listedConstructed : ∀ entry ∈ listed, Constructed entry.2)
      (fallbackConstructed : Constructed fallback) :
      Constructed (.sparse key listed fallback)

theorem length_le_of_ofEntries {key : List Field} {entries : List (DecodeTree Form)}
    {tree : DecodeTree Form} (made : ofEntries key entries = .ok tree) :
    entries.length ≤ 2 ^ Field.totalLength key := by
  dsimp only [ofEntries] at made
  split at made
  next fits => rwa [Nat.one_shiftLeft] at fits
  next => cases made

theorem keyFault?_of_ofListed {key : List Field} {listed : List (Nat × DecodeTree Form)}
    {fallback tree : DecodeTree Form} (made : ofListed key fallback listed = .ok tree) :
    keyFault? (Field.totalLength key) [] (listed.map (·.1)) = none := by
  unfold ofListed at made
  split at made
  next faultless => exact faultless
  next => cases made

theorem Constructed.branchAt {tree : DecodeTree Form} (constructed : tree.Constructed)
    (value : Nat) : (tree.branchAt value).Constructed := by
  cases constructed with
  | form found => exact .form found
  | invalid => exact .invalid
  | unsupported message => exact .unsupported message
  | @dense key entries _ entriesConstructed =>
      rw [DecodeTree.branchAt]
      cases found : entries[value]? with
      | none => exact .invalid
      | some entry => exact entriesConstructed entry (List.mem_of_getElem? found)
  | @sparse key listed fallback _ listedConstructed fallbackConstructed =>
      rw [DecodeTree.branchAt]
      cases found : listed.find? fun entry => entry.1 = value with
      | none => exact fallbackConstructed
      | some entry => exact listedConstructed entry (List.mem_of_find?_eq_some found)

/-! ## Forms by the first turn -/

theorem locateListed_eq_map (place : Place) (listed : List (Nat × DecodeTree Form)) :
    locateListed place listed =
      listed.map fun entry => (entry.1, locate (place ++ [.entry entry.1]) entry.2) := by
  induction listed with
  | nil => rfl
  | cons entry rest induction => rw [locateListed, induction, List.map_cons]

theorem mem_locateEntries (key : List Field) {place : Place} {entries : List (DecodeTree Form)}
    {located : DecodeTree (Place × Form)} :
    located ∈ locateEntries place 0 entries ↔ ∃ position < entries.length,
      located = ((DecodeTree.dense key entries).branchAt position).locate
        (place ++ [.entry position]) := by
  rw [List.mem_iff_getElem?]
  apply exists_congr
  intro position
  rw [getElem?_locateEntries, Nat.zero_add, branchAt]
  cases isEntry : entries[position]? with
  | none =>
      have beyond := List.getElem?_eq_none_iff.mp isEntry
      simp [Nat.not_lt_of_le beyond]
  | some entry =>
      have bound := (List.getElem?_eq_some_iff.mp isEntry).1
      simp [bound, eq_comm]

theorem branchAt_of_find?_eq_some {key : List Field} {listed : List (Nat × DecodeTree Form)}
    {fallback : DecodeTree Form} {value : Nat} {entry : Nat × DecodeTree Form}
    (found : (listed.find? fun other => other.1 = value) = some entry) :
    (DecodeTree.sparse key listed fallback).turnAt value = .entry value ∧
      (DecodeTree.sparse key listed fallback).branchAt value = entry.2 := by
  rw [turnAt, hasEntry, ← List.isSome_find?, branchAt, found]
  exact ⟨rfl, rfl⟩

theorem branchAt_of_find?_eq_none {key : List Field} {listed : List (Nat × DecodeTree Form)}
    {fallback : DecodeTree Form} {value : Nat}
    (missing : (listed.find? fun other => other.1 = value) = none) :
    (DecodeTree.sparse key listed fallback).turnAt value = .fallback ∧
      (DecodeTree.sparse key listed fallback).branchAt value = fallback := by
  rw [turnAt, hasEntry, ← List.isSome_find?, branchAt, missing]
  exact ⟨rfl, rfl⟩

/-- A form of a node is in an entry of one of the values of the key, or in the
fallback, whether a value leads there or not. -/
theorem mem_forms_locate_node {tree : DecodeTree Form} (constructed : tree.Constructed)
    {key : List Field} (isNode : tree.nodeKey? = some key) {place : Place} {node : Place × Form}
    (member : node ∈ (tree.locate place).forms) :
    (∃ value < 2 ^ Field.totalLength key, tree.turnAt value = .entry value ∧
      node ∈ ((tree.branchAt value).locate (place ++ [.entry value])).forms) ∨
    (place ++ [.fallback] <+: node.1 ∧ ∀ value, tree.turnAt value = .fallback →
      node ∈ ((tree.branchAt value).locate (place ++ [.fallback])).forms) := by
  cases constructed with
  | form found => cases isNode
  | invalid => cases isNode
  | unsupported message => cases isNode
  | @dense nodeKey entries made _ =>
      cases isNode
      left
      rw [locate, forms] at member
      rcases mem_entryForms.mp member with ⟨located, isLocated, inLocated⟩
      rcases (mem_locateEntries key).mp isLocated with ⟨position, bound, rfl⟩
      exact ⟨position, Nat.lt_of_lt_of_le bound (length_le_of_ofEntries made), rfl, inLocated⟩
  | @sparse nodeKey listed fallback made _ _ =>
      cases isNode
      rcases keyFault?_eq_none_iff.mp (keyFault?_of_ofListed made) with ⟨fine, nodup⟩
      rw [locate, forms, List.mem_append] at member
      cases member with
      | inl inListed =>
          left
          rw [locateListed_eq_map] at inListed
          rcases mem_listedForms.mp inListed with ⟨located, isLocated, inLocated⟩
          rcases List.mem_map.mp isLocated with ⟨entry, isListed, rfl⟩
          rcases branchAt_of_find?_eq_some (find?_eq_of_mem nodup isListed) with
            ⟨turn, branch⟩
          exact ⟨entry.1, (fine _ (List.mem_map_of_mem isListed)).1, turn, branch ▸ inLocated⟩
      | inr inFallback =>
          refine .inr ⟨prefix_of_mem_forms_locate _ _ _ inFallback, fun value turn => ?_⟩
          cases found : listed.find? fun other => other.1 = value with
          | none => rwa [(branchAt_of_find?_eq_none found).2]
          | some entry =>
              rw [(branchAt_of_find?_eq_some found).1] at turn
              cases turn

theorem exists_below {place rest : Place} {turn : Turn}
    (isPrefix : place ++ [turn] <+: place ++ rest) : ∃ below, rest = turn :: below := by
  rcases (List.prefix_append_right_inj place).mp isPrefix with ⟨below, rfl⟩
  exact ⟨below, rfl⟩

theorem mem_forms_locate_of_turn {tree : DecodeTree Form} {key : List Field}
    (isNode : tree.nodeKey? = some key) {place : Place} {value : Nat} {turn : Turn}
    (takes : tree.turnAt value = turn) {node : Place × Form}
    (member : node ∈ ((tree.branchAt value).locate (place ++ [turn])).forms) :
    node ∈ (tree.locate place).forms := by
  apply forms_branchAt_subset _ value
  rwa [branchAt_locate place isNode, takes]

theorem mem_forms_branchAt_of_turnAt {tree : DecodeTree Form} (constructed : tree.Constructed)
    {key : List Field} (isNode : tree.nodeKey? = some key) {place rest : Place} {turn : Turn}
    {form : Form} (member : (place ++ turn :: rest, form) ∈ (tree.locate place).forms)
    {value : Nat} (takes : tree.turnAt value = turn) :
    (place ++ turn :: rest, form) ∈ ((tree.branchAt value).locate (place ++ [turn])).forms := by
  rcases mem_forms_locate_node constructed isNode member with
    ⟨entryValue, _, entryTakes, inEntry⟩ | ⟨isPrefix, inFallback⟩
  · have sameTurn : turn = .entry entryValue := by
      rcases exists_below (prefix_of_mem_forms_locate _ _ _ inEntry) with ⟨below, same⟩
      cases same
      rfl
    subst sameTurn
    rwa [(turnAt_eq_entry_iff.mp takes).2]
  · rcases exists_below isPrefix with ⟨below, same⟩
    cases same
    exact inFallback value takes

/-! ## Places of forms -/

mutual
theorem forms_locate (place : Place) : ∀ tree : DecodeTree Form,
    (tree.locate place).forms.map Prod.snd = tree.forms
  | .form _ => rfl
  | .invalid => rfl
  | .unsupported _ => rfl
  | .dense key entries => by
      rw [locate, forms, forms, entryForms_locateEntries place 0 entries]
  | .sparse key listed fallback => by
      rw [locate, forms, forms, List.map_append, listedForms_locateListed place listed,
        forms_locate _ fallback]

theorem entryForms_locateEntries (place : Place) (position : Nat) :
    ∀ entries : List (DecodeTree Form),
      (entryForms (locateEntries place position entries)).map Prod.snd = entryForms entries
  | [] => rfl
  | entry :: rest => by
      rw [locateEntries, entryForms, entryForms, List.map_append, forms_locate _ entry,
        entryForms_locateEntries place (position + 1) rest]

theorem listedForms_locateListed (place : Place) : ∀ listed : List (Nat × DecodeTree Form),
    (listedForms (locateListed place listed)).map Prod.snd = listedForms listed
  | [] => rfl
  | (key, entry) :: rest => by
      rw [locateListed, listedForms, listedForms, List.map_append, forms_locate _ entry,
        listedForms_locateListed place rest]
end

theorem disjoint_places {place : Place} {left right : List (Place × Form)}
    (apart : ∀ leftNode ∈ left, ∀ rightNode ∈ right, ∃ leftTurn rightTurn,
      leftTurn ≠ rightTurn ∧ place ++ [leftTurn] <+: leftNode.1 ∧
        place ++ [rightTurn] <+: rightNode.1) :
    (left.map Prod.fst).Disjoint (right.map Prod.fst) := by
  intro shared inLeft inRight
  rcases List.mem_map.mp inLeft with ⟨leftNode, isLeft, rfl⟩
  rcases List.mem_map.mp inRight with ⟨rightNode, isRight, same⟩
  rcases apart leftNode isLeft rightNode isRight with
    ⟨leftTurn, rightTurn, different, leftPrefix, rightPrefix⟩
  rw [same] at rightPrefix
  exact different (turn_unique leftPrefix rightPrefix)

theorem nodup_entryForms_locateEntries {place : Place} {start : Nat}
    {entries : List (DecodeTree Form)}
    (nodup : ∀ entry ∈ entries, ∀ entryPlace,
      ((entry.locate entryPlace).forms.map Prod.fst).Nodup) :
    ((entryForms (locateEntries place start entries)).map Prod.fst).Nodup := by
  induction entries generalizing start with
  | nil => exact List.nodup_nil
  | cons entry rest induction =>
      rw [locateEntries, entryForms, List.map_append, List.nodup_append']
      refine ⟨nodup entry List.mem_cons_self _,
        induction fun other member => nodup other (List.mem_cons_of_mem _ member), ?_⟩
      apply disjoint_places
      intro first inFirst later inLater
      rcases mem_entryForms.mp inLater with ⟨located, isLocated, inLocated⟩
      rcases List.mem_iff_getElem?.mp isLocated with ⟨position, isEntry⟩
      rw [getElem?_locateEntries, Option.map_eq_some_iff] at isEntry
      rcases isEntry with ⟨other, _, rfl⟩
      refine ⟨.entry start, .entry (start + 1 + position), ?_,
        prefix_of_mem_forms_locate _ _ _ inFirst, prefix_of_mem_forms_locate _ _ _ inLocated⟩
      intro same
      have samePosition := Turn.entry.inj same
      omega

theorem nodup_listedForms_locateListed {place : Place} {listed : List (Nat × DecodeTree Form)}
    (values : (listed.map (·.1)).Nodup)
    (nodup : ∀ entry ∈ listed, ∀ entryPlace,
      ((entry.2.locate entryPlace).forms.map Prod.fst).Nodup) :
    ((listedForms (locateListed place listed)).map Prod.fst).Nodup := by
  induction listed with
  | nil => exact List.nodup_nil
  | cons entry rest induction =>
      rcases List.nodup_cons.mp values with ⟨fresh, restValues⟩
      rw [locateListed, listedForms, List.map_append, List.nodup_append']
      refine ⟨nodup entry List.mem_cons_self _,
        induction restValues fun other member => nodup other (List.mem_cons_of_mem _ member), ?_⟩
      apply disjoint_places
      intro first inFirst later inLater
      rw [locateListed_eq_map] at inLater
      rcases mem_listedForms.mp inLater with ⟨located, isLocated, inLocated⟩
      rcases List.mem_map.mp isLocated with ⟨other, isListed, rfl⟩
      refine ⟨.entry entry.1, .entry other.1, ?_,
        prefix_of_mem_forms_locate _ _ _ inFirst, prefix_of_mem_forms_locate _ _ _ inLocated⟩
      intro same
      exact fresh (List.mem_map.mpr ⟨other, isListed, (Turn.entry.inj same).symm⟩)

theorem nodup_places {tree : DecodeTree Form} (constructed : tree.Constructed) (place : Place) :
    ((tree.locate place).forms.map Prod.fst).Nodup := by
  induction constructed generalizing place with
  | form found => exact List.nodup_singleton place
  | invalid => exact List.nodup_nil
  | unsupported message => exact List.nodup_nil
  | dense _ _ induction => exact nodup_entryForms_locateEntries induction
  | @sparse key listed fallback made _ _ listedInduction fallbackInduction =>
      have values := (keyFault?_eq_none_iff.mp (keyFault?_of_ofListed made)).2
      rw [locate, forms, List.map_append, List.nodup_append']
      refine ⟨nodup_listedForms_locateListed values listedInduction, fallbackInduction _, ?_⟩
      apply disjoint_places
      intro first inListed later inFallback
      rw [locateListed_eq_map] at inListed
      rcases mem_listedForms.mp inListed with ⟨located, isLocated, inLocated⟩
      rcases List.mem_map.mp isLocated with ⟨entry, _, rfl⟩
      exact ⟨.entry entry.1, .fallback, by simp,
        prefix_of_mem_forms_locate _ _ _ inLocated, prefix_of_mem_forms_locate _ _ _ inFallback⟩

end PowerDisasm.DecodeTree
