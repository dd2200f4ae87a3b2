import PowerDisasm.Proofs.LeafEnumeration

/-! # The encodings of forms

A walk tries all values of every key. Where no form is below a fallback, the
forms with their patterns are found through the entries alone, which makes the
list of them short enough to be looked through for facts about whole tables. -/

namespace PowerDisasm

structure Encoding (Form : Type) where
  pattern : Pattern
  form : Form
deriving DecidableEq

namespace DecodeTree

variable {Form : Type}

mutual
def encodingsFrom (pattern : Pattern) : DecodeTree Form → List (Encoding Form)
  | .form found => [⟨pattern, found⟩]
  | .invalid => []
  | .unsupported _ => []
  | .dense key entries => entryEncodings pattern key 0 entries
  | .sparse key listed _ => listedEncodings pattern key listed

def entryEncodings (pattern : Pattern) (key : List Field) (position : Nat) :
    List (DecodeTree Form) → List (Encoding Form)
  | [] => []
  | entry :: rest =>
      (match pattern.refine? (Field.mask key) (Field.scatter key (BitVec.ofNat 32 position)) with
        | some refined => encodingsFrom refined entry
        | none => []) ++
      entryEncodings pattern key (position + 1) rest

def listedEncodings (pattern : Pattern) (key : List Field) :
    List (Nat × DecodeTree Form) → List (Encoding Form)
  | [] => []
  | (value, entry) :: rest =>
      (match pattern.refine? (Field.mask key) (Field.scatter key (BitVec.ofNat 32 value)) with
        | some refined => encodingsFrom refined entry
        | none => []) ++
      listedEncodings pattern key rest
end

def encodings (tree : DecodeTree Form) : List (Encoding Form) :=
  encodingsFrom .any tree

mutual
/-- Whether the nodes keep to the rules of their construction, and no fallback
has anything to find. -/
def entriesOnly : DecodeTree Form → Bool
  | .form _ => true
  | .invalid => true
  | .unsupported _ => true
  | .dense key entries =>
      decide (entries.length ≤ 2 ^ Field.totalLength key) && entryEntriesOnly entries
  | .sparse key listed .invalid =>
      decide (keyFault? (Field.totalLength key) [] (listed.map (·.1)) = none) &&
        listedEntriesOnly listed
  | .sparse _ _ _ => false

def entryEntriesOnly : List (DecodeTree Form) → Bool
  | [] => true
  | entry :: rest => entriesOnly entry && entryEntriesOnly rest

def listedEntriesOnly : List (Nat × DecodeTree Form) → Bool
  | [] => true
  | (_, entry) :: rest => entriesOnly entry && listedEntriesOnly rest
end

/-! ## Keys without a fault -/

theorem keyFault?_eq_none_iff {width : Nat} {earlier values : List Nat} :
    keyFault? width earlier values = none ↔
      (∀ value ∈ values, value < 2 ^ width ∧ value ∉ earlier) ∧ values.Nodup := by
  induction values generalizing earlier with
  | nil => simp [keyFault?]
  | cons value rest induction =>
      by_cases large : 2 ^ width ≤ value
      · have notSmall : ¬ value < 2 ^ width := Nat.not_lt_of_le large
        simp [keyFault?, Nat.one_shiftLeft, large, notSmall]
      · by_cases repeated : value ∈ earlier
        · simp [keyFault?, Nat.one_shiftLeft, large, repeated]
        · rw [keyFault?, Nat.one_shiftLeft, if_neg large, if_neg repeated, induction, List.nodup_cons]
          constructor
          · rintro ⟨restFine, restNodup⟩
            refine ⟨?_, fun inRest => (restFine value inRest).2 List.mem_cons_self, restNodup⟩
            intro other member
            cases List.mem_cons.mp member with
            | inl same => exact same ▸ ⟨Nat.lt_of_not_le large, repeated⟩
            | inr inRest =>
                exact ⟨(restFine other inRest).1, fun inEarlier =>
                  (restFine other inRest).2 (List.mem_cons_of_mem _ inEarlier)⟩
          · rintro ⟨allFine, valueNotMem, restNodup⟩
            refine ⟨fun other inRest => ?_, restNodup⟩
            have fine := allFine other (List.mem_cons_of_mem _ inRest)
            refine ⟨fine.1, fun inEarlier => ?_⟩
            cases List.mem_cons.mp inEarlier with
            | inl same => exact valueNotMem (same ▸ inRest)
            | inr older => exact fine.2 older

theorem find?_eq_of_mem {listed : List (Nat × DecodeTree Form)} {entry : Nat × DecodeTree Form}
    (nodup : (listed.map (·.1)).Nodup) (member : entry ∈ listed) :
    (listed.find? fun other => other.1 = entry.1) = some entry := by
  induction listed with
  | nil => cases member
  | cons head rest induction =>
      rcases List.nodup_cons.mp nodup with ⟨headNotMem, restNodup⟩
      cases List.mem_cons.mp member with
      | inl same => simp [same]
      | inr inRest =>
          have different : head.1 ≠ entry.1 := fun same =>
            headNotMem (List.mem_map.mpr ⟨entry, inRest, same.symm⟩)
          simp [different, induction restNodup inRest]

/-! ## Encodings by branches -/

def encodingsAt (pattern : Pattern) (key : List Field) (tree : DecodeTree Form) (value : Nat) :
    List (Encoding Form) :=
  match pattern.refine? (Field.mask key) (Field.scatter key (BitVec.ofNat 32 value)) with
  | some refined => encodingsFrom refined tree
  | none => []

theorem mem_entryEncodings {pattern : Pattern} {key : List Field} {start : Nat}
    {entries : List (DecodeTree Form)} {encoding : Encoding Form} :
    encoding ∈ entryEncodings pattern key start entries ↔
      ∃ position entry, entries[position]? = some entry ∧
        encoding ∈ encodingsAt pattern key entry (start + position) := by
  induction entries generalizing start with
  | nil => simp [entryEncodings]
  | cons head rest induction =>
      rw [entryEncodings, List.mem_append, induction]
      constructor
      · rintro (inHead | ⟨position, entry, found, below⟩)
        · exact ⟨0, head, rfl, inHead⟩
        · refine ⟨position + 1, entry, found, ?_⟩
          rwa [Nat.add_assoc, Nat.add_comm 1] at below
      · rintro ⟨position, entry, found, below⟩
        cases position with
        | zero =>
            cases found
            exact .inl below
        | succ position =>
            refine .inr ⟨position, entry, found, ?_⟩
            rwa [Nat.add_assoc, Nat.add_comm 1]

theorem mem_listedEncodings {pattern : Pattern} {key : List Field}
    {listed : List (Nat × DecodeTree Form)} {encoding : Encoding Form} :
    encoding ∈ listedEncodings pattern key listed ↔
      ∃ entry ∈ listed, encoding ∈ encodingsAt pattern key entry.2 entry.1 := by
  induction listed with
  | nil => simp [listedEncodings]
  | cons head rest induction =>
      rw [listedEncodings, List.mem_append, induction, List.exists_mem_cons_iff]
      rfl

theorem encodingsAt_invalid (pattern : Pattern) (key : List Field) (value : Nat) :
    encodingsAt pattern key (.invalid : DecodeTree Form) value = [] := by
  unfold encodingsAt
  split <;> rfl

theorem entryEntriesOnly_iff {entries : List (DecodeTree Form)} :
    entryEntriesOnly entries = true ↔ ∀ entry ∈ entries, entry.entriesOnly = true := by
  induction entries with
  | nil => simp [entryEntriesOnly]
  | cons entry rest induction => simp [entryEntriesOnly, induction]

theorem listedEntriesOnly_iff {listed : List (Nat × DecodeTree Form)} :
    listedEntriesOnly listed = true ↔ ∀ entry ∈ listed, entry.2.entriesOnly = true := by
  induction listed with
  | nil => simp [listedEntriesOnly]
  | cons entry rest induction => simp [listedEntriesOnly, induction]

theorem entriesOnly_sparse_iff {key : List Field} {listed : List (Nat × DecodeTree Form)}
    {fallback : DecodeTree Form} :
    (DecodeTree.sparse key listed fallback).entriesOnly = true ↔
      fallback = .invalid ∧ keyFault? (Field.totalLength key) [] (listed.map (·.1)) = none ∧
        ∀ entry ∈ listed, entry.2.entriesOnly = true := by
  cases fallback <;> simp [entriesOnly, listedEntriesOnly_iff]

theorem entriesOnly_branchAt {tree : DecodeTree Form} (only : tree.entriesOnly = true)
    (value : Nat) : (tree.branchAt value).entriesOnly = true := by
  cases tree with
  | form found => rfl
  | invalid => rfl
  | unsupported message => rfl
  | dense key entries =>
      rw [entriesOnly, Bool.and_eq_true, entryEntriesOnly_iff] at only
      rw [branchAt]
      cases found : entries[value]? with
      | none => rfl
      | some entry => exact only.2 entry (List.mem_of_getElem? found)
  | sparse key listed fallback =>
      rcases entriesOnly_sparse_iff.mp only with ⟨rfl, _, listedOnly⟩
      rw [branchAt]
      cases found : listed.find? fun entry => entry.1 = value with
      | none => rfl
      | some entry => exact listedOnly entry (List.mem_of_find?_eq_some found)

theorem mem_encodingsFrom_node {tree : DecodeTree Form} {key : List Field}
    (isNode : tree.nodeKey? = some key) (only : tree.entriesOnly = true) {pattern : Pattern}
    {encoding : Encoding Form} :
    encoding ∈ encodingsFrom pattern tree ↔
      ∃ value < 2 ^ Field.totalLength key,
        encoding ∈ encodingsAt pattern key (tree.branchAt value) value := by
  cases tree with
  | form found => cases isNode
  | invalid => cases isNode
  | unsupported message => cases isNode
  | dense nodeKey entries =>
      cases isNode
      rw [entriesOnly, Bool.and_eq_true, decide_eq_true_eq] at only
      simp only [encodingsFrom, mem_entryEncodings, Nat.zero_add, branchAt]
      constructor
      · rintro ⟨position, entry, found, below⟩
        have bound := (List.getElem?_eq_some_iff.mp found).1
        refine ⟨position, Nat.lt_of_lt_of_le bound only.1, ?_⟩
        rw [found]
        exact below
      · rintro ⟨value, _, below⟩
        cases found : entries[value]? with
        | none =>
            rw [found, Option.getD_none, encodingsAt_invalid] at below
            cases below
        | some entry =>
            rw [found] at below
            exact ⟨value, entry, found, below⟩
  | sparse nodeKey listed fallback =>
      cases isNode
      rcases entriesOnly_sparse_iff.mp only with ⟨rfl, faultless, _⟩
      rcases keyFault?_eq_none_iff.mp faultless with ⟨fine, nodup⟩
      simp only [encodingsFrom, mem_listedEncodings, branchAt]
      constructor
      · rintro ⟨entry, member, below⟩
        refine ⟨entry.1, (fine _ (List.mem_map_of_mem member)).1, ?_⟩
        rw [find?_eq_of_mem nodup member]
        exact below
      · rintro ⟨value, _, below⟩
        cases found : listed.find? fun entry => entry.1 = value with
        | none =>
            rw [found, Option.map_none, Option.getD_none, encodingsAt_invalid] at below
            cases below
        | some entry =>
            have same : entry.1 = value := by simpa using List.find?_some found
            rw [found, ← same] at below
            exact ⟨entry, List.mem_of_find?_eq_some found, below⟩

/-! ## Encodings, walks and searches -/

theorem mem_encodingsFrom_iff {tree : DecodeTree Form} (only : tree.entriesOnly = true)
    {start pattern : Pattern} {form : Form} :
    ⟨pattern, form⟩ ∈ encodingsFrom start tree ↔
      ⟨pattern, .leaf (.form form)⟩ ∈ walkFrom start tree := by
  induction tree using branchInduction generalizing start with
  | leaf terminal => cases terminal <;> simp [Terminal.toTree, encodingsFrom, walkFrom]
  | node tree key isNode induction =>
      rw [mem_encodingsFrom_node isNode only, mem_walkFrom_node isNode]
      apply exists_congr
      intro value
      apply and_congr_right
      intro _
      unfold encodingsAt walkAt
      cases start.refine? (Field.mask key) (Field.scatter key (BitVec.ofNat 32 value)) with
      | some refined => exact induction value (entriesOnly_branchAt only value)
      | none => simp [mem_shadows]

/-- A word leads to a form exactly if it has the pattern of one of the form's
encodings. -/
theorem reach_eq_form_iff {tree : DecodeTree Form} (only : tree.entriesOnly = true)
    (separate : ∀ key ∈ tree.keys, Field.Separate key) {word : Word} {form : Form} :
    tree.reach word = .form form ↔
      ∃ pattern : Pattern, pattern.Matches word ∧ ⟨pattern, form⟩ ∈ tree.encodings := by
  rw [reach_eq_iff separate]
  apply exists_congr
  intro pattern
  rw [encodings, mem_encodingsFrom_iff only, walk]

theorem proper_of_mem_encodings {tree : DecodeTree Form} (only : tree.entriesOnly = true)
    {encoding : Encoding Form} (member : encoding ∈ tree.encodings) :
    encoding.pattern.Proper :=
  (walkFrom_narrows Pattern.proper_any ((mem_encodingsFrom_iff only).mp member)).1

end DecodeTree

end PowerDisasm
