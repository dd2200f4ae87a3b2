import Mathlib.Data.List.Induction
import PowerDisasm.Proofs.ConstructedTrees

/-! # Which forms a walk reports

A walk reports every form of a tree, as a leaf or as shadowed, as long as some
word uses each of the fallbacks that the form is in. A fallback that no word
uses is passed over with all forms below it, although no word leads to them
either. -/

namespace PowerDisasm.DecodeTree

variable {Form : Type}

/-! ## Shadowed forms -/

theorem mem_shadowedEntries {form : Form} {entries : List (DecodeTree Form)} :
    form ∈ shadowedEntries entries ↔ ∃ entry ∈ entries, form ∈ entry.shadowed := by
  induction entries with
  | nil => simp [shadowedEntries]
  | cons entry rest induction => simp [shadowedEntries, induction]

theorem mem_shadowed_locate_node {tree : DecodeTree Form} (constructed : tree.Constructed)
    {key : List Field} (isNode : tree.nodeKey? = some key) {place : Place} {node : Place × Form} :
    node ∈ (tree.locate place).shadowed ↔
      ∃ value < 2 ^ Field.totalLength key, tree.turnAt value = .entry value ∧
        node ∈ ((tree.branchAt value).locate (place ++ [.entry value])).shadowed := by
  cases constructed with
  | form found => cases isNode
  | invalid => cases isNode
  | unsupported message => cases isNode
  | @dense nodeKey entries made _ =>
      cases isNode
      rw [locate, shadowed, mem_shadowedEntries]
      constructor
      · rintro ⟨located, isLocated, inLocated⟩
        rcases (mem_locateEntries key).mp isLocated with ⟨position, bound, rfl⟩
        exact ⟨position, Nat.lt_of_lt_of_le bound (length_le_of_ofEntries made), rfl, inLocated⟩
      · rintro ⟨value, _, _, inBranch⟩
        by_cases bound : value < entries.length
        · exact ⟨_, (mem_locateEntries key).mpr ⟨value, bound, rfl⟩, inBranch⟩
        · simp [branchAt, bound, locate, shadowed] at inBranch
  | @sparse nodeKey listed fallback _ _ _ =>
      cases isNode
      rw [locate, shadowed, List.mem_flatMap]
      simp only [List.mem_range, Nat.one_shiftLeft, shadowedListed_eq, find?_locateListed]
      apply exists_congr
      intro value
      apply and_congr_right
      intro _
      cases found : listed.find? fun other => other.1 = value with
      | none =>
          rw [(branchAt_of_find?_eq_none found).1]
          simp
      | some entry =>
          rw [(branchAt_of_find?_eq_some found).1, (branchAt_of_find?_eq_some found).2]
          simp

theorem mem_hiddenAt_locate {tree : DecodeTree Form} {key : List Field}
    (isNode : tree.nodeKey? = some key) {place : Place} {value : Nat} {node : Place × Form} :
    node ∈ (tree.locate place).hiddenAt value ↔ tree.turnAt value = .entry value ∧
      node ∈ ((tree.branchAt value).locate (place ++ [.entry value])).shadowed := by
  rw [hiddenAt, hasEntry_locate, branchAt_locate place isNode, turnAt]
  cases tree.hasEntry value with
  | true => simp
  | false => simp

/-- The forms that are shadowed in a tree that no word leads to are those outside
of its fallbacks. -/
theorem mem_shadowed_locate_iff {tree : DecodeTree Form} (constructed : tree.Constructed)
    {place rest : Place} {form : Form} :
    (place ++ rest, form) ∈ (tree.locate place).shadowed ↔
      (place ++ rest, form) ∈ (tree.locate place).forms ∧ .fallback ∉ rest := by
  induction tree using branchInduction generalizing place rest with
  | leaf terminal =>
      cases terminal with
      | form found =>
          simp only [Terminal.toTree, locate, shadowed, forms, List.mem_singleton, Prod.mk.injEq,
            List.append_right_eq_self]
          exact ⟨fun same => ⟨same, by simp [same.1]⟩, fun same => same.1⟩
      | unmapped => simp [Terminal.toTree, locate, shadowed, forms]
      | unsupported message => simp [Terminal.toTree, locate, shadowed, forms]
  | node tree key isNode induction =>
      constructor
      · intro member
        rcases (mem_shadowed_locate_node constructed isNode).mp member with
          ⟨value, _, takes, inBranch⟩
        have isPrefix := prefix_of_mem_forms_locate _ _ _ (shadowed_subset_forms _ inBranch)
        rcases exists_below isPrefix with ⟨below, rfl⟩
        rw [List.append_cons place _ below, induction value (constructed.branchAt value)]
          at inBranch
        refine ⟨mem_forms_locate_of_turn isNode takes ?_, ?_⟩
        · rw [List.append_cons place _ below]
          exact inBranch.1
        · simpa using inBranch.2
      · rintro ⟨member, outside⟩
        rcases mem_forms_locate_node constructed isNode member with
          ⟨value, bound, takes, inBranch⟩ | ⟨isPrefix, _⟩
        · rcases exists_below (prefix_of_mem_forms_locate _ _ _ inBranch) with ⟨below, rfl⟩
          refine (mem_shadowed_locate_node constructed isNode).mpr ⟨value, bound, takes, ?_⟩
          rw [List.append_cons place _ below] at inBranch ⊢
          rw [induction value (constructed.branchAt value)]
          exact ⟨inBranch, fun inBelow => outside (List.mem_cons_of_mem _ inBelow)⟩
        · rcases exists_below isPrefix with ⟨below, rfl⟩
          exact absurd List.mem_cons_self outside

/-! ## Uses of fallbacks -/

def Leads (word : Word) : Place → DecodeTree Form → Prop
  | [], _ => True
  | turn :: rest, tree =>
      ∃ key, tree.nodeKey? = some key ∧
        tree.turnAt (Field.gather key word).toNat = turn ∧
        Leads word rest (tree.branchAt (Field.gather key word).toNat)

theorem leads_cons_iff {tree : DecodeTree Form} {key : List Field}
    (isNode : tree.nodeKey? = some key) {word : Word} {turn : Turn} {rest : Place} :
    Leads word (turn :: rest) tree ↔
      tree.turnAt (Field.gather key word).toNat = turn ∧
        Leads word rest (tree.branchAt (Field.gather key word).toNat) := by
  rw [Leads]
  constructor
  · rintro ⟨other, isOther, taken⟩
    rw [isNode] at isOther
    cases isOther
    exact taken
  · exact fun taken => ⟨key, isNode, taken⟩

theorem Leads.of_prefix {tree : DecodeTree Form} {word : Word} {front place : Place}
    (leads : Leads word place tree) (isPrefix : front <+: place) : Leads word front tree := by
  induction front generalizing tree place with
  | nil => trivial
  | cons turn front induction =>
      rcases isPrefix with ⟨rest, rfl⟩
      rcases leads with ⟨key, isNode, takes, below⟩
      exact ⟨key, isNode, takes, induction below (List.prefix_append front rest)⟩

/-- Where the place is in a fallback, the search for the word goes there. -/
def UsesFallbacks (word : Word) (place : Place) (tree : DecodeTree Form) : Prop :=
  ∀ front, front ++ [.fallback] <+: place → Leads word (front ++ [.fallback]) tree

theorem usesFallbacks_of_notMem {place : Place} (outside : .fallback ∉ place) (word : Word)
    (tree : DecodeTree Form) : UsesFallbacks word place tree := by
  intro front isPrefix
  exact absurd (isPrefix.subset (by simp)) outside

theorem exists_usesFallbacks {tree : DecodeTree Form} (place : Place)
    (used : ∀ front, front ++ [.fallback] <+: place →
      ∃ word, Leads word (front ++ [.fallback]) tree) :
    ∃ word, UsesFallbacks word place tree := by
  induction place using List.reverseRecOn with
  | nil => exact ⟨0, usesFallbacks_of_notMem List.not_mem_nil 0 tree⟩
  | append_singleton place turn induction =>
      cases turn with
      | fallback =>
          rcases used place List.prefix_rfl with ⟨word, leads⟩
          exact ⟨word, fun _ isPrefix => leads.of_prefix isPrefix⟩
      | entry value =>
          rcases induction fun front isPrefix =>
            used front (isPrefix.trans (List.prefix_append place _)) with ⟨word, uses⟩
          refine ⟨word, fun front isPrefix => uses front ?_⟩
          rcases List.prefix_concat_iff.mp isPrefix with whole | inFront
          · simp at whole
          · exact inFront

theorem UsesFallbacks.head {tree : DecodeTree Form} {key : List Field}
    (isNode : tree.nodeKey? = some key) {word : Word} {turn : Turn} {rest : Place}
    (uses : UsesFallbacks word (turn :: rest) tree) (inside : .fallback ∈ turn :: rest) :
    tree.turnAt (Field.gather key word).toNat = turn := by
  rcases List.append_of_mem inside with ⟨front, back, split⟩
  have leads := uses front ⟨back, by simp [split]⟩
  cases front with
  | nil =>
      cases split
      exact ((leads_cons_iff isNode).mp leads).1
  | cons head front =>
      cases split
      exact ((leads_cons_iff isNode).mp leads).1

theorem UsesFallbacks.tail {tree : DecodeTree Form} {key : List Field}
    (isNode : tree.nodeKey? = some key) {word : Word} {turn : Turn} {rest : Place}
    (uses : UsesFallbacks word (turn :: rest) tree) :
    UsesFallbacks word rest (tree.branchAt (Field.gather key word).toNat) := by
  intro front isPrefix
  have leads := uses (turn :: front) (List.prefix_cons_inj turn |>.mpr isPrefix)
  exact ((leads_cons_iff isNode).mp leads).2

theorem UsesFallbacks.cons {tree : DecodeTree Form} {key : List Field}
    (isNode : tree.nodeKey? = some key) {word : Word} {rest : Place}
    (uses : UsesFallbacks word rest (tree.branchAt (Field.gather key word).toNat)) :
    UsesFallbacks word (tree.turnAt (Field.gather key word).toNat :: rest) tree := by
  intro front isPrefix
  cases front with
  | nil =>
      have first := (List.cons_prefix_cons.mp isPrefix).1
      exact (leads_cons_iff isNode).mpr ⟨first.symm, trivial⟩
  | cons turn front =>
      rcases List.cons_prefix_cons.mp isPrefix with ⟨rfl, inRest⟩
      exact (leads_cons_iff isNode).mpr ⟨rfl, uses front inRest⟩

/-! ## Reported forms -/

def Reported (visits : List (Visit Form)) (form : Form) : Prop :=
  ∃ visit ∈ visits, visit.finding.form? = some form

theorem reported_of_branch {tree : DecodeTree Form} {key : List Field}
    (isNode : tree.nodeKey? = some key) {place : Place} {pattern refined : Pattern} {value : Nat}
    (bound : value < 2 ^ Field.totalLength key)
    (refines : pattern.refine? (Field.mask key) (Field.scatter key (BitVec.ofNat 32 value)) =
      some refined)
    {turn : Turn} (takes : tree.turnAt value = turn) {node : Place × Form}
    (reported : Reported (walkFrom refined ((tree.branchAt value).locate (place ++ [turn]))) node) :
    Reported (walkFrom pattern (tree.locate place)) node := by
  have isLocatedNode := (nodeKey?_locate place tree).trans isNode
  rcases reported with ⟨visit, isVisited, found⟩
  refine ⟨visit, (mem_walkFrom_node isLocatedNode).mpr ⟨value, bound, ?_⟩, found⟩
  rwa [walkAt, refines, branchAt_locate place isNode, takes]

/-- A form that is shadowed below a tree is found by all walks of the tree, since
an entry that is not walked has its shadowed forms listed. -/
theorem reported_of_mem_shadowed {tree : DecodeTree Form} (constructed : tree.Constructed)
    {place : Place} {node : Place × Form} (pattern : Pattern)
    (member : node ∈ (tree.locate place).shadowed) :
    Reported (walkFrom pattern (tree.locate place)) node := by
  induction tree using branchInduction generalizing place pattern with
  | leaf terminal =>
      cases terminal with
      | form found =>
          cases List.mem_singleton.mp member
          exact ⟨_, List.mem_singleton_self _, rfl⟩
      | unmapped => cases member
      | unsupported message => cases member
  | node tree key isNode induction =>
      have isLocatedNode := (nodeKey?_locate place tree).trans isNode
      rcases (mem_shadowed_locate_node constructed isNode).mp member with
        ⟨value, bound, takes, inBranch⟩
      cases refines : pattern.refine? (Field.mask key)
          (Field.scatter key (BitVec.ofNat 32 value)) with
      | some refined =>
          exact reported_of_branch isNode bound refines takes
            (induction value (constructed.branchAt value) refined inBranch)
      | none =>
          refine ⟨⟨pattern, .shadowed node⟩,
            (mem_walkFrom_node isLocatedNode).mpr ⟨value, bound, ?_⟩, rfl⟩
          rw [walkAt, refines]
          exact mem_shadows.mpr
            ⟨rfl, node, (mem_hiddenAt_locate isNode).mpr ⟨takes, inBranch⟩, rfl⟩

/-- The words that use all fallbacks around a form take the walk to the last of
them, and from there on the form is walked to or listed as shadowed. -/
theorem reported_of_usesFallbacks {tree : DecodeTree Form} (constructed : tree.Constructed)
    (fits : ∀ key ∈ tree.keys, Field.totalLength key ≤ 32) {place rest : Place} {form : Form}
    {pattern : Pattern} (proper : pattern.Proper) {word : Word} (holds : pattern.Matches word)
    (uses : UsesFallbacks word rest tree)
    (member : (place ++ rest, form) ∈ (tree.locate place).forms) :
    Reported (walkFrom pattern (tree.locate place)) (place ++ rest, form) := by
  induction tree using branchInduction generalizing place rest pattern with
  | leaf terminal =>
      cases terminal with
      | form found =>
          rw [List.mem_singleton.mp member]
          exact ⟨_, List.mem_singleton_self _, rfl⟩
      | unmapped => cases member
      | unsupported message => cases member
  | node tree key isNode induction =>
      by_cases inside : .fallback ∈ rest
      · cases rest with
        | nil => cases inside
        | cons turn rest =>
            -- Up to the last fallback the walk can follow the word.
            have takes := uses.head isNode inside
            have inBranch := mem_forms_branchAt_of_turnAt constructed isNode member takes
            rw [List.append_cons place turn rest] at inBranch ⊢
            rcases exists_refine?_gather (fits key (nodeKey_mem_keys isNode)) proper holds with
              ⟨refined, refines, refinedProper, refinedHolds⟩
            exact reported_of_branch isNode (Field.toNat_gather_lt key word) refines takes
              (induction _ (constructed.branchAt _)
                (fun branchKey inKeys => fits branchKey (keys_branchAt_subset tree _ inKeys))
                refinedProper refinedHolds (uses.tail isNode) inBranch)
      · exact reported_of_mem_shadowed constructed pattern
          ((mem_shadowed_locate_iff constructed).mpr ⟨member, inside⟩)

theorem usesFallbacks_of_reported {tree : DecodeTree Form} (constructed : tree.Constructed)
    (separate : ∀ key ∈ tree.keys, Field.Separate key) {place rest : Place} {form : Form}
    {pattern : Pattern} (proper : pattern.Proper) {visit : Visit (Place × Form)}
    (isVisited : visit ∈ walkFrom pattern (tree.locate place))
    (found : visit.finding.form? = some (place ++ rest, form)) {word : Word}
    (holds : visit.pattern.Matches word) : UsesFallbacks word rest tree := by
  induction tree using branchInduction generalizing place rest pattern with
  | leaf terminal =>
      cases terminal with
      | form leafForm =>
          cases List.mem_singleton.mp isVisited
          have same : rest = [] ∧ leafForm = form := by simpa [Finding.form?] using found
          rw [same.1]
          exact usesFallbacks_of_notMem List.not_mem_nil word _
      | unmapped =>
          cases List.mem_singleton.mp isVisited
          cases found
      | unsupported message =>
          cases List.mem_singleton.mp isVisited
          cases found
  | node tree key isNode induction =>
      have isLocatedNode := (nodeKey?_locate place tree).trans isNode
      rcases (mem_walkFrom_node isLocatedNode).mp isVisited with ⟨value, bound, below⟩
      unfold walkAt at below
      split at below
      next refined refines =>
        rw [branchAt_locate place isNode] at below
        rcases exists_below (prefix_of_mem_forms_locate _ _ _
          (mem_forms_of_mem_walkFrom below found)) with ⟨behind, rfl⟩
        rw [List.append_cons place _ behind] at found
        have uses := induction value (constructed.branchAt value)
          (fun branchKey inKeys => separate branchKey (keys_branchAt_subset tree _ inKeys))
          (proper.refine? refines) below found
        have refinedHolds := (walkFrom_narrows (proper.refine? refines) below).2 word holds
        have gathered := toNat_gather_of_agrees (separate key (nodeKey_mem_keys isNode)) bound
          ((proper.matches_refine? refines word).mp refinedHolds).2
        subst gathered
        exact uses.cons isNode
      next =>
        -- What is shadowed here is not in any fallback, so there is none to be used.
        rcases mem_shadows.mp below with ⟨_, hidden, isHidden, finds⟩
        rw [finds] at found
        cases found
        rcases (mem_hiddenAt_locate isNode).mp isHidden with ⟨takes, inBranch⟩
        have isShadowed := (mem_shadowed_locate_node constructed isNode).mpr
          ⟨value, bound, takes, inBranch⟩
        exact usesFallbacks_of_notMem
          ((mem_shadowed_locate_iff constructed).mp isShadowed).2 word tree

theorem reported_walk_iff {tree : DecodeTree Form} (constructed : tree.Constructed)
    (separate : ∀ key ∈ tree.keys, Field.Separate key) {node : Place × Form}
    (member : node ∈ tree.located.forms) :
    Reported tree.located.walk node ↔
      ∀ front, front ++ [.fallback] <+: node.1 →
        ∃ word, Leads word (front ++ [.fallback]) tree := by
  have fits : ∀ key ∈ tree.keys, Field.totalLength key ≤ 32 := fun key inKeys =>
    Field.totalLength_le key (separate key inKeys)
  constructor
  · rintro ⟨visit, isVisited, found⟩ front isPrefix
    have proper := (walkFrom_narrows Pattern.proper_any isVisited).1
    have uses : UsesFallbacks visit.pattern.value node.1 tree :=
      usesFallbacks_of_reported constructed separate Pattern.proper_any isVisited found
        proper.matches_value
    exact ⟨visit.pattern.value, uses front isPrefix⟩
  · intro used
    rcases exists_usesFallbacks node.1 used with ⟨word, uses⟩
    exact reported_of_usesFallbacks constructed fits Pattern.proper_any
      (Pattern.matches_any word) uses member

theorem reported_iff {visits : List (Visit Form)} {form : Form} :
    Reported visits form ↔ (∃ pattern, ⟨pattern, .leaf (.form form)⟩ ∈ visits) ∨
      ∃ pattern, ⟨pattern, .shadowed form⟩ ∈ visits := by
  constructor
  · rintro ⟨⟨pattern, finding⟩, isVisited, found⟩
    cases finding with
    | leaf terminal =>
        cases terminal with
        | form leafForm =>
            cases found
            exact .inl ⟨pattern, isVisited⟩
        | unmapped => cases found
        | unsupported message => cases found
    | shadowed hidden =>
        cases found
        exact .inr ⟨pattern, isVisited⟩
  · rintro (⟨pattern, isVisited⟩ | ⟨pattern, isVisited⟩)
    · exact ⟨_, isVisited, rfl⟩
    · exact ⟨_, isVisited, rfl⟩

/-- A walk of a tree with places is a walk of the tree, and so is a search; the
tree with places has the same forms, each at a place of its own. If no key reads
a bit twice, the walk reports the forms to which words lead as leaves. A form to
which no word leads is reported as shadowed, unless it is in a fallback that no
word leads to. -/
theorem walk_reports_forms {tree : DecodeTree Form} (constructed : tree.Constructed)
    (separate : ∀ key ∈ tree.keys, Field.Separate key) :
    (tree.located.walk.map (Visit.map Prod.snd) = tree.walk ∧
      (∀ word, (tree.located.reach word).map Prod.snd = tree.reach word) ∧
      tree.located.forms.map Prod.snd = tree.forms ∧
      (tree.located.forms.map Prod.fst).Nodup) ∧
    ∀ node ∈ tree.located.forms,
      ((∃ word, tree.located.reach word = .form node) ↔
        ∃ pattern, ⟨pattern, .leaf (.form node)⟩ ∈ tree.located.walk) ∧
      ((∀ word, tree.located.reach word ≠ .form node) →
        ((∃ pattern, ⟨pattern, .shadowed node⟩ ∈ tree.located.walk) ↔
          ∀ front, front ++ [.fallback] <+: node.1 →
            ∃ word, Leads word (front ++ [.fallback]) tree)) := by
  refine ⟨⟨walkFrom_locate [] tree .any, reach_locate [] tree, forms_locate [] tree,
    nodup_places constructed []⟩, fun node member => ?_⟩
  have reachedIff : (∃ word, tree.located.reach word = .form node) ↔
      ∃ pattern, ⟨pattern, .leaf (.form node)⟩ ∈ tree.located.walk :=
    exists_reach_eq_iff ((keys_locate [] tree).symm ▸ separate)
  refine ⟨reachedIff, fun unreached => ?_⟩
  rw [← reported_walk_iff constructed separate member, reported_iff, ← reachedIff]
  simp [unreached]

/-- A node whose fallback reads the bit of its key once more. -/
def halfUsedFallback : DecodeTree Nat :=
  .sparse [.bit 31] [(0, .form 0)] (.dense [.bit 31] [.form 1, .form 2])

theorem walk_reports_forms_halfUsedFallback :
    halfUsedFallback.Constructed ∧ (∀ key ∈ halfUsedFallback.keys, Field.Separate key) ∧
    ([.fallback, .entry 0], 1) ∈ halfUsedFallback.located.forms ∧
    (∀ word, halfUsedFallback.located.reach word ≠ .form ([.fallback, .entry 0], 1)) ∧
    ∃ pattern, ⟨pattern, .shadowed ([.fallback, .entry 0], 1)⟩ ∈
      halfUsedFallback.located.walk := by
  have fallbackConstructed : (DecodeTree.dense [.bit 31] [.form 1, .form 2]).Constructed :=
    .dense rfl (by simpa using ⟨.form 1, .form 2⟩)
  have constructed : halfUsedFallback.Constructed :=
    .sparse rfl (by simpa using .form 0) fallbackConstructed
  have separate : ∀ key ∈ halfUsedFallback.keys, Field.Separate key := by decide
  have member : ([.fallback, .entry 0], 1) ∈ halfUsedFallback.located.forms := by decide
  have notLeaf : .leaf (.form ([.fallback, .entry 0], 1)) ∉
      halfUsedFallback.located.walk.map (·.finding) := by decide
  rcases (walk_reports_forms constructed separate).2 _ member with ⟨reachedIff, shadowedIff⟩
  have unreached : ∀ word,
      halfUsedFallback.located.reach word ≠ .form ([.fallback, .entry 0], 1) := by
    intro word reached
    rcases reachedIff.mp ⟨word, reached⟩ with ⟨pattern, isLeaf⟩
    exact notLeaf (List.mem_map.mpr ⟨_, isLeaf, rfl⟩)
  refine ⟨constructed, separate, member, unreached, (shadowedIff unreached).mpr ?_⟩
  intro front isPrefix
  cases front with
  | nil => exact ⟨0x80000000, [.bit 31], rfl, by decide, trivial⟩
  | cons turn front =>
      have below := (List.cons_prefix_cons.mp isPrefix).2
      have outside : Turn.fallback ∈ [Turn.entry 0] := below.subset (by simp)
      simp at outside

/-- A fallback to which no word leads, since the bit of its key is fixed. -/
def unusedFallback : DecodeTree Nat :=
  .dense [.bit 31] [.dense [.bit 31] [.invalid, .sparse [.bit 0] [] (.form 0)]]

/-- A form to which no word leads may be passed over by the walk. -/
theorem form_of_unusedFallback_not_reported :
    unusedFallback.Constructed ∧ (∀ key ∈ unusedFallback.keys, Field.Separate key) ∧
    unusedFallback.located.forms = [([.entry 0, .entry 1, .fallback], 0)] ∧
    (∀ word, unusedFallback.located.reach word ≠
      .form ([.entry 0, .entry 1, .fallback], 0)) ∧
    ¬ Reported unusedFallback.located.walk ([.entry 0, .entry 1, .fallback], 0) := by
  have sparseConstructed : (DecodeTree.sparse [.bit 0] [] (.form 0)).Constructed :=
    .sparse rfl (by simp) (.form 0)
  have innerConstructed :
      (DecodeTree.dense [.bit 31] [.invalid, .sparse [.bit 0] [] (.form 0)]).Constructed :=
    .dense rfl (by simpa using ⟨.invalid, sparseConstructed⟩)
  have constructed : unusedFallback.Constructed := .dense rfl (by simpa using innerConstructed)
  have separate : ∀ key ∈ unusedFallback.keys, Field.Separate key := by decide
  have notReported : ¬ Reported unusedFallback.located.walk
      ([.entry 0, .entry 1, .fallback], 0) := by
    unfold Reported
    decide
  refine ⟨constructed, separate, rfl, fun word reached => notReported ?_, notReported⟩
  have separateLocated : ∀ key ∈ unusedFallback.located.keys, Field.Separate key :=
    (keys_locate [] unusedFallback).symm ▸ separate
  rcases (exists_reach_eq_iff separateLocated).mp ⟨word, reached⟩ with ⟨pattern, isLeaf⟩
  exact ⟨_, isLeaf, rfl⟩

end PowerDisasm.DecodeTree
