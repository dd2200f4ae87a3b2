import PowerDisasm.Proofs.TreeContents

/-! # Places in a decode tree

Two leaves of a tree may hold the same form. To tell which of them a search or
a walk finds, each form is put together with its place, the turns that lead
from the root to it. Search and walk do not look at forms, so the tree with
places is searched and walked as the tree without them. -/

namespace PowerDisasm

section Map

variable {α β : Type}

def Terminal.map (transform : α → β) : Terminal α → Terminal β
  | .form found => .form (transform found)
  | .unmapped => .unmapped
  | .unsupported message => .unsupported message

def Finding.map (transform : α → β) : Finding α → Finding β
  | .leaf terminal => .leaf (terminal.map transform)
  | .shadowed form => .shadowed (transform form)

def Visit.map (transform : α → β) (visit : Visit α) : Visit β :=
  ⟨visit.pattern, visit.finding.map transform⟩

end Map

namespace DecodeTree

variable {Form : Type}

inductive Turn where
  | entry (value : Nat)
  | fallback
deriving DecidableEq

/-- The turns from the root of a tree. -/
abbrev Place := List Turn

mutual
/-- The tree with its forms at the places below `place`. -/
def locate (place : Place) : DecodeTree Form → DecodeTree (Place × Form)
  | .form found => .form (place, found)
  | .invalid => .invalid
  | .unsupported message => .unsupported message
  | .dense key entries => .dense key (locateEntries place 0 entries)
  | .sparse key listed fallback =>
      .sparse key (locateListed place listed) (locate (place ++ [.fallback]) fallback)

def locateEntries (place : Place) (position : Nat) :
    List (DecodeTree Form) → List (DecodeTree (Place × Form))
  | [] => []
  | entry :: rest =>
      locate (place ++ [.entry position]) entry :: locateEntries place (position + 1) rest

def locateListed (place : Place) :
    List (Nat × DecodeTree Form) → List (Nat × DecodeTree (Place × Form))
  | [] => []
  | (key, entry) :: rest =>
      (key, locate (place ++ [.entry key]) entry) :: locateListed place rest
end

def located (tree : DecodeTree Form) : DecodeTree (Place × Form) :=
  tree.locate []

def turnAt (tree : DecodeTree Form) (value : Nat) : Turn :=
  if tree.hasEntry value then .entry value else .fallback

/-! ## Branches of a tree with places -/

theorem getElem?_locateEntries (place : Place) (start position : Nat)
    (entries : List (DecodeTree Form)) :
    (locateEntries place start entries)[position]? =
      entries[position]?.map (locate (place ++ [.entry (start + position)])) := by
  induction entries generalizing start position with
  | nil => rfl
  | cons entry rest induction =>
      cases position with
      | zero => rfl
      | succ position =>
          have shifted : start + 1 + position = start + (position + 1) := by omega
          simpa [locateEntries, shifted] using induction (start + 1) position

theorem find?_locateListed (place : Place) (value : Nat)
    (listed : List (Nat × DecodeTree Form)) :
    ((locateListed place listed).find? fun entry => entry.1 = value) =
      (listed.find? fun entry => entry.1 = value).map
        fun entry => (entry.1, locate (place ++ [.entry value]) entry.2) := by
  induction listed with
  | nil => rfl
  | cons entry rest induction =>
      by_cases same : entry.1 = value
      · simp [locateListed, same]
      · simp [locateListed, same, induction]

@[simp] theorem nodeKey?_locate (place : Place) (tree : DecodeTree Form) :
    (tree.locate place).nodeKey? = tree.nodeKey? := by
  cases tree <;> rfl

@[simp] theorem hasEntry_locate (place : Place) (tree : DecodeTree Form) (value : Nat) :
    (tree.locate place).hasEntry value = tree.hasEntry value := by
  cases tree with
  | form found => rfl
  | invalid => rfl
  | unsupported message => rfl
  | dense key entries => rfl
  | sparse key listed fallback =>
      simp only [locate, hasEntry, ← List.isSome_find?, find?_locateListed, Option.isSome_map]

theorem branchAt_locate (place : Place) {tree : DecodeTree Form} {key : List Field}
    (isNode : tree.nodeKey? = some key) (value : Nat) :
    (tree.locate place).branchAt value =
      (tree.branchAt value).locate (place ++ [tree.turnAt value]) := by
  cases tree with
  | form found => cases isNode
  | invalid => cases isNode
  | unsupported message => cases isNode
  | dense nodeKey entries =>
      simp only [locate, branchAt, getElem?_locateEntries, turnAt, hasEntry, if_true,
        Nat.zero_add]
      cases entries[value]? <;> rfl
  | sparse nodeKey listed fallback =>
      simp only [locate, branchAt, find?_locateListed, turnAt, hasEntry, ← List.isSome_find?]
      cases listed.find? fun entry => entry.1 = value <;> rfl

theorem branchAt_eq_of_turnAt_eq {tree : DecodeTree Form} {left right : Nat}
    (same : tree.turnAt left = tree.turnAt right) :
    tree.branchAt left = tree.branchAt right := by
  unfold turnAt at same
  cases leftEntry : tree.hasEntry left with
  | true =>
      cases rightEntry : tree.hasEntry right with
      | true =>
          simp only [leftEntry, rightEntry, if_true, Turn.entry.injEq] at same
          rw [same]
      | false => simp [leftEntry, rightEntry] at same
  | false =>
      cases rightEntry : tree.hasEntry right with
      | true => simp [leftEntry, rightEntry] at same
      | false =>
          cases tree with
          | form found => rfl
          | invalid => rfl
          | unsupported message => rfl
          | dense key entries => cases leftEntry
          | sparse key listed fallback =>
              rw [hasEntry, ← List.isSome_find?, Option.isSome_eq_false_iff,
                Option.isNone_iff_eq_none] at leftEntry rightEntry
              rw [branchAt, branchAt, leftEntry, rightEntry]

theorem turnAt_eq_entry_iff {tree : DecodeTree Form} {value taken : Nat} :
    tree.turnAt value = .entry taken ↔ tree.hasEntry value = true ∧ value = taken := by
  unfold turnAt
  split <;> simp_all

/-! ## Contents of a tree with places -/

mutual
theorem keys_locate (place : Place) : ∀ tree : DecodeTree Form,
    (tree.locate place).keys = tree.keys
  | .form _ => rfl
  | .invalid => rfl
  | .unsupported _ => rfl
  | .dense key entries => by
      rw [locate, keys, keys, entryKeys_locateEntries place 0 entries]
  | .sparse key listed fallback => by
      rw [locate, keys, keys, listedKeys_locateListed place listed,
        keys_locate _ fallback]

theorem entryKeys_locateEntries (place : Place) (position : Nat) :
    ∀ entries : List (DecodeTree Form),
      entryKeys (locateEntries place position entries) = entryKeys entries
  | [] => rfl
  | entry :: rest => by
      rw [locateEntries, entryKeys, entryKeys, keys_locate _ entry,
        entryKeys_locateEntries place (position + 1) rest]

theorem listedKeys_locateListed (place : Place) : ∀ listed : List (Nat × DecodeTree Form),
    listedKeys (locateListed place listed) = listedKeys listed
  | [] => rfl
  | (key, entry) :: rest => by
      rw [locateListed, listedKeys, listedKeys, keys_locate _ entry,
        listedKeys_locateListed place rest]
end

mutual
theorem prefix_of_mem_forms_locate (place : Place) (node : Place × Form) :
    ∀ tree : DecodeTree Form, node ∈ (tree.locate place).forms → place <+: node.1
  | .form found, member => by
      rw [locate, forms, List.mem_singleton] at member
      subst member
      exact List.prefix_rfl
  | .invalid, member => by cases member
  | .unsupported _, member => by cases member
  | .dense key entries, member => by
      rw [locate, forms] at member
      exact prefix_of_mem_entryForms_locate place 0 node entries member
  | .sparse key listed fallback, member => by
      rw [locate, forms, List.mem_append] at member
      cases member with
      | inl inListed => exact prefix_of_mem_listedForms_locate place node listed inListed
      | inr inFallback =>
          exact (List.prefix_append place _).trans
            (prefix_of_mem_forms_locate (place ++ [.fallback]) node fallback inFallback)

theorem prefix_of_mem_entryForms_locate (place : Place) (position : Nat) (node : Place × Form) :
    ∀ entries : List (DecodeTree Form),
      node ∈ entryForms (locateEntries place position entries) → place <+: node.1
  | [], member => by cases member
  | entry :: rest, member => by
      rw [locateEntries, entryForms, List.mem_append] at member
      cases member with
      | inl inEntry =>
          exact (List.prefix_append place _).trans
            (prefix_of_mem_forms_locate (place ++ [.entry position]) node entry inEntry)
      | inr inRest =>
          exact prefix_of_mem_entryForms_locate place (position + 1) node rest inRest

theorem prefix_of_mem_listedForms_locate (place : Place) (node : Place × Form) :
    ∀ listed : List (Nat × DecodeTree Form),
      node ∈ listedForms (locateListed place listed) → place <+: node.1
  | [], member => by cases member
  | (key, entry) :: rest, member => by
      rw [locateListed, listedForms, List.mem_append] at member
      cases member with
      | inl inEntry =>
          exact (List.prefix_append place _).trans
            (prefix_of_mem_forms_locate (place ++ [.entry key]) node entry inEntry)
      | inr inRest => exact prefix_of_mem_listedForms_locate place node rest inRest
end

theorem prefix_of_mem_forms_branchAt {place : Place} {tree : DecodeTree Form} {key : List Field}
    (isNode : tree.nodeKey? = some key) {value : Nat} {node : Place × Form}
    (member : node ∈ ((tree.locate place).branchAt value).forms) :
    place ++ [tree.turnAt value] <+: node.1 := by
  rw [branchAt_locate place isNode] at member
  exact prefix_of_mem_forms_locate _ node _ member

theorem turn_unique {place target : Place} {left right : Turn}
    (leftPrefix : place ++ [left] <+: target) (rightPrefix : place ++ [right] <+: target) :
    left = right := by
  have same := List.prefix_of_prefix_length_le leftPrefix rightPrefix (by simp)
  simpa using same

/-! ## Searches and walks -/

theorem reach_locate (place : Place) (tree : DecodeTree Form) (word : Word) :
    ((tree.locate place).reach word).map Prod.snd = tree.reach word := by
  induction tree using branchInduction generalizing place with
  | leaf terminal => cases terminal <;> rfl
  | node tree key isNode induction =>
      have isLocatedNode := (nodeKey?_locate place tree).trans isNode
      rw [reach_node isLocatedNode, branchAt_locate place isNode, induction, ← reach_node isNode]

mutual
theorem shadowed_locate (place : Place) : ∀ tree : DecodeTree Form,
    (tree.locate place).shadowed.map Prod.snd = tree.shadowed
  | .form _ => by simp [locate, shadowed]
  | .invalid => by simp [locate, shadowed]
  | .unsupported _ => by simp [locate, shadowed]
  | .dense _ entries => by
      rw [locate, shadowed, shadowed, shadowedEntries_locate place 0 entries]
  | .sparse key listed fallback => by
      simp only [locate, shadowed, List.map_flatMap, shadowedListed_locate place _ listed]

theorem shadowedEntries_locate (place : Place) (position : Nat) :
    ∀ entries : List (DecodeTree Form),
      (shadowedEntries (locateEntries place position entries)).map Prod.snd =
        shadowedEntries entries
  | [] => by simp [locateEntries, shadowedEntries]
  | entry :: rest => by
      rw [locateEntries, shadowedEntries, shadowedEntries, List.map_append,
        shadowed_locate _ entry, shadowedEntries_locate place (position + 1) rest]

theorem shadowedListed_locate (place : Place) (value : Nat) :
    ∀ listed : List (Nat × DecodeTree Form),
      (shadowedListed value (locateListed place listed)).map Prod.snd =
        shadowedListed value listed
  | [] => by simp [locateListed, shadowedListed]
  | (key, entry) :: rest => by
      rw [locateListed, shadowedListed, shadowedListed]
      split
      · exact shadowed_locate _ entry
      · exact shadowedListed_locate place value rest
end

theorem map_shadows {α β : Type} (transform : α → β) (pattern : Pattern) (forms : List α) :
    (shadows pattern forms).map (Visit.map transform) =
      shadows pattern (forms.map transform) := by
  simp [shadows, Visit.map, Finding.map, Function.comp_def]

theorem walkFrom_locate (place : Place) (tree : DecodeTree Form) (pattern : Pattern) :
    (walkFrom pattern (tree.locate place)).map (Visit.map Prod.snd) = walkFrom pattern tree := by
  induction tree using branchInduction generalizing place pattern with
  | leaf terminal => cases terminal <;> rfl
  | node tree key isNode induction =>
      have isLocatedNode := (nodeKey?_locate place tree).trans isNode
      rw [walkFrom_node isLocatedNode, walkFrom_node isNode, List.map_flatMap]
      congr 1
      funext value
      unfold walkAt
      cases pattern.refine? (Field.mask key) (Field.scatter key (BitVec.ofNat 32 value)) with
      | some refined =>
          simp only [branchAt_locate place isNode]
          exact induction value _ refined
      | none =>
          simp only [map_shadows, hiddenAt, hasEntry_locate, branchAt_locate place isNode]
          split
          · rw [shadowed_locate]
          · rfl

end DecodeTree

end PowerDisasm
