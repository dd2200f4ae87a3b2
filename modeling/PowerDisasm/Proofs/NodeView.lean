import Mathlib.Algebra.Group.Nat.Defs
import PowerDisasm.DecodeTree.Walk

/-! # Decode trees by their branches

A dense and a sparse node both have a key, and one tree for each value of the
key. Search, walk and the contents of a tree are stated here through this view
alone, so that facts about trees are proved once for both kinds of nodes. -/

namespace PowerDisasm

namespace Terminal

variable {Form : Type}

def toTree : Terminal Form → DecodeTree Form
  | .form found => .form found
  | .unmapped => .invalid
  | .unsupported message => .unsupported message

end Terminal

namespace DecodeTree

variable {Form : Type}

/-! ## The view -/

def nodeKey? : DecodeTree Form → Option (List Field)
  | .dense key _ => some key
  | .sparse key _ _ => some key
  | _ => none

def branchAt (value : Nat) : DecodeTree Form → DecodeTree Form
  | .dense _ entries => entries[value]?.getD .invalid
  | .sparse _ listed fallback =>
      ((listed.find? fun entry => entry.1 = value).map (·.2)).getD fallback
  | leaf => leaf

/-- Whether there is an entry for a value of the key, which the fallback of a
sparse node is not. -/
def hasEntry (value : Nat) : DecodeTree Form → Bool
  | .sparse _ listed _ => listed.any fun entry => entry.1 = value
  | _ => true

/-- The forms that are reported for a value of the key that no word has. -/
def hiddenAt (value : Nat) (tree : DecodeTree Form) : List Form :=
  if tree.hasEntry value then (tree.branchAt value).shadowed else []

theorem branchInduction {motive : DecodeTree Form → Prop}
    (leaf : ∀ terminal : Terminal Form, motive terminal.toTree)
    (node : ∀ tree key, tree.nodeKey? = some key →
      (∀ value, motive (tree.branchAt value)) → motive tree)
    (tree : DecodeTree Form) : motive tree := by
  induction tree with
  | form found => exact leaf (.form found)
  | invalid => exact leaf .unmapped
  | unsupported message => exact leaf (.unsupported message)
  | dense key entries induction =>
      apply node _ key rfl
      intro value
      rw [branchAt]
      cases found : entries[value]? with
      | none => exact leaf .unmapped
      | some entry => exact induction entry (List.mem_of_getElem? found)
  | sparse key listed fallback listedInduction fallbackInduction =>
      apply node _ key rfl
      intro value
      rw [branchAt]
      cases found : listed.find? fun entry => entry.1 = value with
      | none => exact fallbackInduction
      | some entry => exact listedInduction entry (List.mem_of_find?_eq_some found)

/-! ## Search -/

theorem reachEntry_eq (word : Word) (position : Nat) (entries : List (DecodeTree Form)) :
    reachEntry word position entries = reach word (entries[position]?.getD .invalid) := by
  induction entries generalizing position with
  | nil => rfl
  | cons entry rest induction =>
      cases position with
      | zero => rfl
      | succ position => simpa [reachEntry] using induction position

theorem reachListed?_eq (word : Word) (key : Nat) (listed : List (Nat × DecodeTree Form)) :
    reachListed? word key listed =
      (listed.find? fun entry => entry.1 = key).map fun entry => reach word entry.2 := by
  induction listed with
  | nil => rfl
  | cons entry rest induction =>
      by_cases same : entry.1 = key
      · simp [reachListed?, same]
      · simp [reachListed?, same, induction]

@[simp] theorem reach_toTree (word : Word) (terminal : Terminal Form) :
    reach word terminal.toTree = terminal := by
  cases terminal <;> rfl

theorem reach_node {tree : DecodeTree Form} {key : List Field}
    (isNode : tree.nodeKey? = some key) (word : Word) :
    reach word tree = reach word (tree.branchAt (Field.gather key word).toNat) := by
  cases tree with
  | form found => cases isNode
  | invalid => cases isNode
  | unsupported message => cases isNode
  | dense nodeKey entries =>
      cases isNode
      rw [reach, reachEntry_eq, branchAt]
  | sparse nodeKey listed fallback =>
      cases isNode
      rw [reach, reachListed?_eq, branchAt]
      cases listed.find? fun entry => entry.1 = (Field.gather key word).toNat <;> rfl

/-! ## Walk -/

theorem walkEntry_eq (pattern : Pattern) (position : Nat) (entries : List (DecodeTree Form)) :
    walkEntry pattern position entries =
      walkFrom pattern (entries[position]?.getD .invalid) := by
  induction entries generalizing position with
  | nil => rfl
  | cons entry rest induction =>
      cases position with
      | zero => rfl
      | succ position => simpa [walkEntry] using induction position

theorem walkListed?_eq (pattern : Pattern) (key : Nat) (listed : List (Nat × DecodeTree Form)) :
    walkListed? pattern key listed =
      (listed.find? fun entry => entry.1 = key).map fun entry => walkFrom pattern entry.2 := by
  induction listed with
  | nil => rfl
  | cons entry rest induction =>
      by_cases same : entry.1 = key
      · simp [walkListed?, same]
      · simp [walkListed?, same, induction]

theorem shadowedEntry_eq (position : Nat) (entries : List (DecodeTree Form)) :
    shadowedEntry position entries = shadowed (entries[position]?.getD .invalid) := by
  induction entries generalizing position with
  | nil => simp [shadowedEntry, shadowed]
  | cons entry rest induction =>
      cases position with
      | zero => rfl
      | succ position => simpa [shadowedEntry] using induction position

theorem shadowedListed_eq (key : Nat) (listed : List (Nat × DecodeTree Form)) :
    shadowedListed key listed =
      ((listed.find? fun entry => entry.1 = key).map fun entry => shadowed entry.2).getD [] := by
  induction listed with
  | nil => rfl
  | cons entry rest induction =>
      by_cases same : entry.1 = key
      · simp [shadowedListed, same]
      · simp [shadowedListed, same, induction]

@[simp] theorem walkFrom_toTree (pattern : Pattern) (terminal : Terminal Form) :
    walkFrom pattern terminal.toTree = [⟨pattern, .leaf terminal⟩] := by
  cases terminal <;> rfl

def walkAt (pattern : Pattern) (key : List Field) (tree : DecodeTree Form) (value : Nat) :
    List (Visit Form) :=
  match pattern.refine? (Field.mask key) (Field.scatter key (BitVec.ofNat 32 value)) with
  | some refined => walkFrom refined (tree.branchAt value)
  | none => shadows pattern (tree.hiddenAt value)

theorem walkFrom_node {tree : DecodeTree Form} {key : List Field}
    (isNode : tree.nodeKey? = some key) (pattern : Pattern) :
    walkFrom pattern tree =
      (List.range (2 ^ Field.totalLength key)).flatMap (walkAt pattern key tree) := by
  cases tree with
  | form found => cases isNode
  | invalid => cases isNode
  | unsupported message => cases isNode
  | dense nodeKey entries =>
      cases isNode
      rw [walkFrom, Nat.one_shiftLeft]
      congr 1
      funext value
      unfold walkAt
      cases pattern.refine? (Field.mask key) (Field.scatter key (BitVec.ofNat 32 value)) with
      | some refined => exact walkEntry_eq refined value entries
      | none => simp only [shadowedEntry_eq, hiddenAt, hasEntry, branchAt, if_true]
  | sparse nodeKey listed fallback =>
      cases isNode
      rw [walkFrom, Nat.one_shiftLeft]
      congr 1
      funext value
      unfold walkAt
      cases pattern.refine? (Field.mask key) (Field.scatter key (BitVec.ofNat 32 value)) with
      | some refined =>
          simp only [walkListed?_eq, branchAt]
          cases listed.find? fun entry => entry.1 = value <;> rfl
      | none =>
          simp only [shadowedListed_eq, hiddenAt, hasEntry, branchAt]
          cases found : listed.find? fun entry => entry.1 = value with
          | none =>
              have unlisted : (listed.any fun entry => entry.1 = value) = false := by
                rw [List.any_eq_false]
                exact List.find?_eq_none.mp found
              simp [unlisted]
          | some entry =>
              have same : entry.1 = value := by simpa using List.find?_some found
              have isListed : (listed.any fun entry => entry.1 = value) = true :=
                List.any_eq_true.mpr
                  ⟨entry, List.mem_of_find?_eq_some found, decide_eq_true same⟩
              simp [isListed]

end DecodeTree

end PowerDisasm
