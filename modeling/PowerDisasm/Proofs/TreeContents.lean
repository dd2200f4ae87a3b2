import PowerDisasm.Proofs.NodeView

/-! # What a decode tree holds

The keys of all nodes of a tree and the forms of all its leaves. Searches and
walks find no other forms than these. -/

namespace PowerDisasm

namespace DecodeTree

variable {Form : Type}

mutual
def keys : DecodeTree Form → List (List Field)
  | .form _ => []
  | .invalid => []
  | .unsupported _ => []
  | .dense key entries => key :: entryKeys entries
  | .sparse key listed fallback => key :: listedKeys listed ++ keys fallback

def entryKeys : List (DecodeTree Form) → List (List Field)
  | [] => []
  | entry :: rest => keys entry ++ entryKeys rest

def listedKeys : List (Nat × DecodeTree Form) → List (List Field)
  | [] => []
  | (_, entry) :: rest => keys entry ++ listedKeys rest
end

mutual
def forms : DecodeTree Form → List Form
  | .form found => [found]
  | .invalid => []
  | .unsupported _ => []
  | .dense _ entries => entryForms entries
  | .sparse _ listed fallback => listedForms listed ++ forms fallback

def entryForms : List (DecodeTree Form) → List Form
  | [] => []
  | entry :: rest => forms entry ++ entryForms rest

def listedForms : List (Nat × DecodeTree Form) → List Form
  | [] => []
  | (_, entry) :: rest => forms entry ++ listedForms rest
end

/-! ## Contents of branches -/

theorem mem_entryKeys {key : List Field} {entries : List (DecodeTree Form)} :
    key ∈ entryKeys entries ↔ ∃ entry ∈ entries, key ∈ entry.keys := by
  induction entries with
  | nil => simp [entryKeys]
  | cons entry rest induction => simp [entryKeys, induction]

theorem mem_listedKeys {key : List Field} {listed : List (Nat × DecodeTree Form)} :
    key ∈ listedKeys listed ↔ ∃ entry ∈ listed, key ∈ entry.2.keys := by
  induction listed with
  | nil => simp [listedKeys]
  | cons entry rest induction => simp [listedKeys, induction]

theorem mem_entryForms {form : Form} {entries : List (DecodeTree Form)} :
    form ∈ entryForms entries ↔ ∃ entry ∈ entries, form ∈ entry.forms := by
  induction entries with
  | nil => simp [entryForms]
  | cons entry rest induction => simp [entryForms, induction]

theorem mem_listedForms {form : Form} {listed : List (Nat × DecodeTree Form)} :
    form ∈ listedForms listed ↔ ∃ entry ∈ listed, form ∈ entry.2.forms := by
  induction listed with
  | nil => simp [listedForms]
  | cons entry rest induction => simp [listedForms, induction]

theorem nodeKey_mem_keys {tree : DecodeTree Form} {key : List Field}
    (isNode : tree.nodeKey? = some key) : key ∈ tree.keys := by
  cases tree with
  | form found => cases isNode
  | invalid => cases isNode
  | unsupported message => cases isNode
  | dense nodeKey entries =>
      cases isNode
      simp [keys]
  | sparse nodeKey listed fallback =>
      cases isNode
      simp [keys]

theorem keys_branchAt_subset (tree : DecodeTree Form) (value : Nat) :
    (tree.branchAt value).keys ⊆ tree.keys := by
  intro key member
  cases tree with
  | form found => exact member
  | invalid => exact member
  | unsupported message => exact member
  | dense nodeKey entries =>
      rw [branchAt] at member
      cases found : entries[value]? with
      | none => simp [found, keys] at member
      | some entry =>
          rw [found] at member
          exact List.mem_cons_of_mem _
            (mem_entryKeys.mpr ⟨entry, List.mem_of_getElem? found, member⟩)
  | sparse nodeKey listed fallback =>
      rw [branchAt] at member
      simp only [keys, List.cons_append, List.mem_cons, List.mem_append]
      cases found : listed.find? fun entry => entry.1 = value with
      | none =>
          rw [found] at member
          exact .inr (.inr member)
      | some entry =>
          rw [found] at member
          exact .inr (.inl
            (mem_listedKeys.mpr ⟨entry, List.mem_of_find?_eq_some found, member⟩))

theorem forms_branchAt_subset (tree : DecodeTree Form) (value : Nat) :
    (tree.branchAt value).forms ⊆ tree.forms := by
  intro form member
  cases tree with
  | form found => exact member
  | invalid => exact member
  | unsupported message => exact member
  | dense nodeKey entries =>
      rw [branchAt] at member
      cases found : entries[value]? with
      | none => simp [found, forms] at member
      | some entry =>
          rw [found] at member
          exact mem_entryForms.mpr ⟨entry, List.mem_of_getElem? found, member⟩
  | sparse nodeKey listed fallback =>
      rw [branchAt] at member
      rw [forms, List.mem_append]
      cases found : listed.find? fun entry => entry.1 = value with
      | none =>
          rw [found] at member
          exact .inr member
      | some entry =>
          rw [found] at member
          exact .inl (mem_listedForms.mpr ⟨entry, List.mem_of_find?_eq_some found, member⟩)

/-! ## What is found -/

theorem mem_forms_of_reach {tree : DecodeTree Form} {word : Word} {form : Form}
    (found : tree.reach word = .form form) : form ∈ tree.forms := by
  induction tree using branchInduction with
  | leaf terminal =>
      rw [reach_toTree] at found
      subst found
      exact List.mem_singleton_self form
  | node tree key isNode induction =>
      rw [reach_node isNode] at found
      exact forms_branchAt_subset tree _ (induction _ found)

mutual
theorem shadowed_subset_forms : ∀ tree : DecodeTree Form, tree.shadowed ⊆ tree.forms
  | .form _ => by simp [shadowed, forms]
  | .invalid => by simp [shadowed]
  | .unsupported _ => by simp [shadowed]
  | .dense _ entries => by
      rw [shadowed, forms]
      exact shadowedEntries_subset entries
  | .sparse key listed fallback => by
      intro form member
      rw [shadowed, List.mem_flatMap] at member
      rcases member with ⟨value, _, below⟩
      exact List.mem_append_left _ (shadowedListed_subset value listed below)

theorem shadowedEntries_subset : ∀ entries : List (DecodeTree Form),
    shadowedEntries entries ⊆ entryForms entries
  | [] => by simp [shadowedEntries]
  | entry :: rest => by
      rw [shadowedEntries, entryForms]
      exact List.append_subset.mpr
        ⟨List.subset_append_of_subset_left _ (shadowed_subset_forms entry),
          List.subset_append_of_subset_right _ (shadowedEntries_subset rest)⟩

theorem shadowedListed_subset (key : Nat) : ∀ listed : List (Nat × DecodeTree Form),
    shadowedListed key listed ⊆ listedForms listed
  | [] => by simp [shadowedListed]
  | (listedKey, entry) :: rest => by
      rw [shadowedListed, listedForms]
      split
      · exact List.subset_append_of_subset_left _ (shadowed_subset_forms entry)
      · exact List.subset_append_of_subset_right _ (shadowedListed_subset key rest)
end

theorem hiddenAt_subset_forms (tree : DecodeTree Form) (value : Nat) :
    tree.hiddenAt value ⊆ (tree.branchAt value).forms := by
  unfold hiddenAt
  split
  · exact shadowed_subset_forms _
  · exact List.nil_subset _

end DecodeTree

def Finding.form? {Form : Type} : Finding Form → Option Form
  | .leaf (.form found) => some found
  | .leaf _ => none
  | .shadowed form => some form

namespace DecodeTree

variable {Form : Type}

theorem mem_walkFrom_node {tree : DecodeTree Form} {key : List Field}
    (isNode : tree.nodeKey? = some key) {pattern : Pattern} {visit : Visit Form} :
    visit ∈ walkFrom pattern tree ↔
      ∃ value < 2 ^ Field.totalLength key, visit ∈ walkAt pattern key tree value := by
  simp [walkFrom_node isNode]

theorem mem_shadows {pattern : Pattern} {forms : List Form} {visit : Visit Form} :
    visit ∈ shadows pattern forms ↔
      visit.pattern = pattern ∧ ∃ form ∈ forms, visit.finding = .shadowed form := by
  unfold shadows
  rw [List.mem_map]
  constructor
  · rintro ⟨form, member, rfl⟩
    exact ⟨rfl, form, member, rfl⟩
  · rintro ⟨rfl, form, member, found⟩
    exact ⟨form, member, by rw [← found]⟩

theorem mem_forms_of_mem_walkFrom {tree : DecodeTree Form} {pattern : Pattern}
    {visit : Visit Form} {form : Form} (member : visit ∈ walkFrom pattern tree)
    (found : visit.finding.form? = some form) : form ∈ tree.forms := by
  induction tree using branchInduction generalizing pattern with
  | leaf terminal =>
      rw [walkFrom_toTree, List.mem_singleton] at member
      subst member
      cases terminal with
      | form leafForm =>
          cases found
          exact List.mem_singleton_self form
      | unmapped => cases found
      | unsupported message => cases found
  | node tree key isNode induction =>
      rcases (mem_walkFrom_node isNode).mp member with ⟨value, _, below⟩
      apply forms_branchAt_subset tree value
      unfold walkAt at below
      split at below
      · exact induction value below
      · rcases mem_shadows.mp below with ⟨_, hidden, hiddenMember, isHidden⟩
        rw [isHidden] at found
        cases found
        exact hiddenAt_subset_forms tree value hiddenMember

end DecodeTree

end PowerDisasm
