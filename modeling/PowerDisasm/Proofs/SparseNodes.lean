import Mathlib.Data.List.Induction
import PowerDisasm.DecodeState
import PowerDisasm.Proofs.ConstructedTrees
import PowerDisasm.Table.Branch

/-! # Sparse nodes as dense nodes

A sparse node is a short way to write the dense node in which the fallback
stands at every value that is not listed. Searches end at the same leaf in both,
and walks report the same leaves with the same patterns, wherever in a tree the
node is. Only shadowed forms are reported differently: a sparse node leaves out
those below its fallback. -/

namespace PowerDisasm.DecodeTree

variable {Form : Type}

/-! ## Refused lists -/

/-- The first value of a list that has more than `width` bits or stands in the
list before, and what is wrong with it. -/
def FirstFault (width : Nat) (values : List Nat) (fault : ConstructionFault) : Prop :=
  ∃ front value rest, values = front ++ value :: rest ∧
    (∀ earlier ∈ front, earlier < 2 ^ width) ∧ front.Nodup ∧
    (2 ^ width ≤ value ∧ fault = .keyTooLarge value width ∨
      value < 2 ^ width ∧ value ∈ front ∧ fault = .repeatedKey value)

theorem keyFault?_append (width : Nat) (earlier front rest : List Nat) :
    keyFault? width earlier (front ++ rest) =
      (keyFault? width earlier front).or (keyFault? width (front.reverse ++ earlier) rest) := by
  induction front generalizing earlier with
  | nil => rfl
  | cons value front induction =>
      rw [List.cons_append, keyFault?, keyFault?, induction, List.reverse_cons,
        List.append_assoc, List.singleton_append]
      split
      · rfl
      · split <;> rfl

theorem keyFault?_append_cons {width : Nat} {front rest : List Nat} {value : Nat}
    (fine : ∀ earlier ∈ front, earlier < 2 ^ width) (nodup : front.Nodup) :
    keyFault? width [] (front ++ value :: rest) =
      if 2 ^ width ≤ value then some (.keyTooLarge value width)
      else if value ∈ front then some (.repeatedKey value)
      else keyFault? width (value :: front.reverse) rest := by
  have faultless : keyFault? width [] front = none :=
    keyFault?_eq_none_iff.mpr ⟨fun earlier member => ⟨fine earlier member, List.not_mem_nil⟩, nodup⟩
  rw [keyFault?_append, faultless, Option.none_or, List.append_nil, keyFault?,
    Nat.one_shiftLeft]
  simp only [List.mem_reverse]

theorem keyFault?_eq_some_iff {width : Nat} {values : List Nat} {fault : ConstructionFault} :
    keyFault? width [] values = some fault ↔ FirstFault width values fault := by
  constructor
  · intro faulty
    induction values using List.reverseRecOn with
    | nil => cases faulty
    | append_singleton front value induction =>
        cases frontFault : keyFault? width [] front with
        | some first =>
            rw [keyFault?_append, frontFault, Option.some_or] at faulty
            rcases induction (frontFault.trans faulty) with ⟨before, other, rest, rfl, isFirst⟩
            exact ⟨before, other, rest ++ [value], by simp, isFirst⟩
        | none =>
            rcases keyFault?_eq_none_iff.mp frontFault with ⟨fine, nodup⟩
            have small : ∀ earlier ∈ front, earlier < 2 ^ width :=
              fun earlier member => (fine earlier member).1
            rw [keyFault?_append_cons small nodup] at faulty
            refine ⟨front, value, [], rfl, small, nodup, ?_⟩
            split at faulty
            next large => exact .inl ⟨large, (Option.some.inj faulty).symm⟩
            next notLarge =>
              split at faulty
              next repeated =>
                exact .inr ⟨Nat.lt_of_not_le notLarge, repeated, (Option.some.inj faulty).symm⟩
              next => cases faulty
  · rintro ⟨front, value, rest, rfl, fine, nodup, ⟨large, rfl⟩ | ⟨small, repeated, rfl⟩⟩
    · rw [keyFault?_append_cons fine nodup, if_pos large]
    · rw [keyFault?_append_cons fine nodup, if_neg (Nat.not_le_of_lt small), if_pos repeated]

theorem ofListed_eq_error_iff {key : List Field} {listed : List (Nat × DecodeTree Form)}
    {fallback : DecodeTree Form} {fault : ConstructionFault} :
    ofListed key fallback listed = .error fault ↔
      FirstFault (Field.totalLength key) (listed.map (·.1)) fault := by
  rw [← keyFault?_eq_some_iff, ofListed]
  split
  next faultless => simp [faultless]
  next other faulty => simp [faulty]

theorem ofListed_eq_ok_iff {key : List Field} {listed : List (Nat × DecodeTree Form)}
    {fallback tree : DecodeTree Form} :
    ofListed key fallback listed = .ok tree ↔
      ((∀ entry ∈ listed, entry.1 < 2 ^ Field.totalLength key) ∧ (listed.map (·.1)).Nodup) ∧
        tree = .sparse key listed fallback := by
  have faultlessIff : keyFault? (Field.totalLength key) [] (listed.map (·.1)) = none ↔
      (∀ entry ∈ listed, entry.1 < 2 ^ Field.totalLength key) ∧ (listed.map (·.1)).Nodup := by
    simp [keyFault?_eq_none_iff]
  rw [← faultlessIff, ofListed]
  split
  next faultless => simp [faultless, eq_comm]
  next other faulty => simp [faulty]

/-! ## Trees that searches and walks do not tell apart -/

def leavesFrom (pattern : Pattern) (tree : DecodeTree Form) : List (Visit Form) :=
  (walkFrom pattern tree).filter (·.finding.isLeaf)

structure Alike (left right : DecodeTree Form) : Prop where
  reach_eq : ∀ word, left.reach word = right.reach word
  leavesFrom_eq : ∀ pattern, leavesFrom pattern left = leavesFrom pattern right

theorem Alike.refl (tree : DecodeTree Form) : Alike tree tree :=
  ⟨fun _ => rfl, fun _ => rfl⟩

theorem filter_isLeaf_shadows (pattern : Pattern) (forms : List Form) :
    (shadows pattern forms).filter (·.finding.isLeaf) = [] := by
  simp [shadows, Finding.isLeaf]

/-- The leaves below a node are those below its branches: what is reported for
the other values of the key are shadowed forms. -/
theorem leavesFrom_node {tree : DecodeTree Form} {key : List Field}
    (isNode : tree.nodeKey? = some key) (pattern : Pattern) :
    leavesFrom pattern tree = (List.range (2 ^ Field.totalLength key)).flatMap fun value =>
      match pattern.refine? (Field.mask key) (Field.scatter key (BitVec.ofNat 32 value)) with
      | some refined => leavesFrom refined (tree.branchAt value)
      | none => [] := by
  rw [leavesFrom, walkFrom_node isNode, List.filter_flatMap]
  congr 1
  funext value
  unfold walkAt
  cases pattern.refine? (Field.mask key) (Field.scatter key (BitVec.ofNat 32 value)) with
  | some refined => rfl
  | none => exact filter_isLeaf_shadows pattern _

theorem alike_of_branches {left right : DecodeTree Form} {key : List Field}
    (leftNode : left.nodeKey? = some key) (rightNode : right.nodeKey? = some key)
    (branches : ∀ value < 2 ^ Field.totalLength key,
      Alike (left.branchAt value) (right.branchAt value)) : Alike left right := by
  constructor
  · intro word
    rw [reach_node leftNode, reach_node rightNode]
    exact (branches _ (Field.toNat_gather_lt key word)).reach_eq word
  · intro pattern
    rw [leavesFrom_node leftNode, leavesFrom_node rightNode]
    apply List.flatMap_congr
    intro value member
    split
    next refined _ => exact (branches value (List.mem_range.mp member)).leavesFrom_eq refined
    next => rfl

/-! ## Positions in a tree -/

/-- A tree in which the subtree at one position is left open. -/
inductive Context (Form : Type) where
  | hole
  | inDense (key : List Field) (before : List (DecodeTree Form)) (inner : Context Form)
      (after : List (DecodeTree Form))
  | inSparse (key : List Field) (before : List (Nat × DecodeTree Form)) (value : Nat)
      (inner : Context Form) (after : List (Nat × DecodeTree Form)) (fallback : DecodeTree Form)
  | inFallback (key : List Field) (listed : List (Nat × DecodeTree Form)) (inner : Context Form)

def Context.fill (tree : DecodeTree Form) : Context Form → DecodeTree Form
  | .hole => tree
  | .inDense key before inner after => .dense key (before ++ inner.fill tree :: after)
  | .inSparse key before value inner after fallback =>
      .sparse key (before ++ (value, inner.fill tree) :: after) fallback
  | .inFallback key listed inner => .sparse key listed (inner.fill tree)

namespace Alike

variable {left right : DecodeTree Form}

theorem inDense (alike : Alike left right) (key : List Field)
    (before after : List (DecodeTree Form)) :
    Alike (.dense key (before ++ left :: after)) (.dense key (before ++ right :: after)) := by
  apply alike_of_branches rfl rfl
  intro value _
  simp only [branchAt, List.getElem?_append, List.getElem?_cons]
  split
  · exact .refl _
  · split
    · exact alike
    · exact .refl _

theorem inSparse (alike : Alike left right) (key : List Field)
    (before : List (Nat × DecodeTree Form)) (value : Nat)
    (after : List (Nat × DecodeTree Form)) (fallback : DecodeTree Form) :
    Alike (.sparse key (before ++ (value, left) :: after) fallback)
      (.sparse key (before ++ (value, right) :: after) fallback) := by
  apply alike_of_branches rfl rfl
  intro taken _
  simp only [branchAt, List.find?_append, List.find?_cons]
  cases before.find? fun entry => entry.1 = taken with
  | some found => exact .refl found.2
  | none =>
      by_cases same : value = taken
      · simpa [same] using alike
      · simpa [same] using Alike.refl _

theorem inFallback (alike : Alike left right) (key : List Field)
    (listed : List (Nat × DecodeTree Form)) :
    Alike (.sparse key listed left) (.sparse key listed right) := by
  apply alike_of_branches rfl rfl
  intro value _
  simp only [branchAt]
  cases listed.find? fun entry => entry.1 = value with
  | some found => exact .refl found.2
  | none => exact alike

theorem fill (alike : Alike left right) (context : Context Form) :
    Alike (context.fill left) (context.fill right) := by
  induction context with
  | hole => exact alike
  | inDense key before inner after induction => exact induction.inDense key before after
  | inSparse key before value inner after fallback induction =>
      exact induction.inSparse key before value after fallback
  | inFallback key listed inner induction => exact induction.inFallback key listed

end Alike

/-! ## The dense node of a list -/

def filledEntries (key : List Field) (fallback : DecodeTree Form)
    (listed : List (Nat × DecodeTree Form)) : List (DecodeTree Form) :=
  (List.range (2 ^ Field.totalLength key)).map fun value =>
    (listed.lookup value).getD fallback

theorem ofEntries_filledEntries (key : List Field) (fallback : DecodeTree Form)
    (listed : List (Nat × DecodeTree Form)) :
    ofEntries key (filledEntries key fallback listed) =
      .ok (.dense key (filledEntries key fallback listed)) := by
  have full : (filledEntries key fallback listed).length = 1 <<< Field.totalLength key := by
    rw [filledEntries, List.length_map, List.length_range, Nat.one_shiftLeft]
  rw [ofEntries, if_pos (Nat.le_of_eq full)]

theorem branchAt_filledEntries {key : List Field} (fallback : DecodeTree Form)
    (listed : List (Nat × DecodeTree Form)) {value : Nat}
    (bound : value < 2 ^ Field.totalLength key) :
    (DecodeTree.dense key (filledEntries key fallback listed)).branchAt value =
      (listed.lookup value).getD fallback := by
  simp [branchAt, filledEntries, List.getElem?_range bound]

theorem branchAt_of_perm {key : List Field} {listed reordered : List (Nat × DecodeTree Form)}
    (fallback : DecodeTree Form) (nodup : (reordered.map (·.1)).Nodup)
    (perm : reordered.Perm listed) (value : Nat) :
    (DecodeTree.sparse key reordered fallback).branchAt value =
      (listed.lookup value).getD fallback := by
  cases isListed : listed.lookup value with
  | some tree =>
      rcases List.lookup_eq_some_iff.mp isListed with ⟨before, after, split, _⟩
      have member : (value, tree) ∈ reordered := by
        rw [perm.mem_iff, split]
        simp
      exact (branchAt_of_find?_eq_some (find?_eq_of_mem nodup member)).2
  | none =>
      have missing : (reordered.find? fun entry => entry.1 = value) = none := by
        rw [List.find?_eq_none]
        intro entry member
        have different := List.lookup_eq_none_iff.mp isListed entry (perm.mem_iff.mp member)
        rw [decide_eq_true_eq]
        exact fun same => bne_iff_ne.mp different same.symm
      exact (branchAt_of_find?_eq_none missing).2

theorem alike_filledEntries (key : List Field) {listed reordered : List (Nat × DecodeTree Form)}
    (fallback : DecodeTree Form) (nodup : (reordered.map (·.1)).Nodup)
    (perm : reordered.Perm listed) :
    Alike (.sparse key reordered fallback) (.dense key (filledEntries key fallback listed)) := by
  apply alike_of_branches rfl rfl
  intro value bound
  rw [branchAt_of_perm fallback nodup perm, branchAt_filledEntries fallback listed bound]
  exact .refl _

/-! ## Agreement -/

/-- A list is accepted exactly if its keys fit the key fields and no two of them
are equal, and refused with what is wrong with the first key that does not fit
or stands in the list before. If it is accepted, it is so in any order, and at
any position of a tree all its sparse nodes decode to the same records,
diagnostics and states as the dense node with the fallback at the other values,
and walks report the same leaves in the same order with the same patterns. -/
theorem ofListed_agrees_with_ofEntries (key : List Field)
    (fallback : DecodeTree InstructionForm) (listed : List (Nat × DecodeTree InstructionForm)) :
    ((∃ accepted, ofListed key fallback listed = .ok accepted) ↔
      (∀ entry ∈ listed, entry.1 < 2 ^ Field.totalLength key) ∧ (listed.map (·.1)).Nodup) ∧
    (∀ fault, ofListed key fallback listed = .error fault ↔
      FirstFault (Field.totalLength key) (listed.map (·.1)) fault) ∧
    ∀ accepted, ofListed key fallback listed = .ok accepted →
      ∀ reordered, reordered.Perm listed → ∃ sparse dense,
        ofListed key fallback reordered = .ok sparse ∧
        ofEntries key (filledEntries key fallback listed) = .ok dense ∧
        ∀ context : Context InstructionForm,
          (∀ (state : DecodeState) word,
            state.decodeTerminal word ((context.fill sparse).reach word) =
              state.decodeTerminal word ((context.fill dense).reach word)) ∧
          (∀ (state : DecodeState) word address,
            state.decode (context.fill sparse) word address =
              state.decode (context.fill dense) word address) ∧
          (context.fill sparse).walk.filter (·.finding.isLeaf) =
            (context.fill dense).walk.filter (·.finding.isLeaf) := by
  refine ⟨by simp only [ofListed_eq_ok_iff, exists_and_left, exists_eq, and_true],
    fun fault => ofListed_eq_error_iff, ?_⟩
  intro accepted made reordered perm
  rcases ofListed_eq_ok_iff.mp made with ⟨⟨fine, nodup⟩, _⟩
  have reorderedNodup : (reordered.map (·.1)).Nodup := (perm.map _).nodup_iff.mpr nodup
  have reorderedFine : ∀ entry ∈ reordered, entry.1 < 2 ^ Field.totalLength key :=
    fun entry member => fine entry (perm.mem_iff.mp member)
  refine ⟨_, _, ofListed_eq_ok_iff.mpr ⟨⟨reorderedFine, reorderedNodup⟩, rfl⟩,
    ofEntries_filledEntries key fallback listed, fun context => ?_⟩
  have alike := (alike_filledEntries key fallback reorderedNodup perm).fill context
  refine ⟨fun state word => ?_, fun state word address => ?_, alike.leavesFrom_eq .any⟩
  · rw [alike.reach_eq word]
  · rw [DecodeState.decode, DecodeState.decode, alike.reach_eq word]

def scatteredBranches : List (Nat × DecodeTree InstructionForm) :=
  [(2, Table.Branch.unconditional), (1, Table.Branch.onCondition)]

/-- A fallback whose node has read a bit of the scattered key already. -/
def belowFallback : Context InstructionForm :=
  .inFallback [.bit 31] [(0, .invalid)] .hole

theorem ofListed_agrees_with_ofEntries_belowFallback :
    ofListed [.bit 31, .bit 1] (.unsupported "trap") scatteredBranches =
      .ok (.sparse [.bit 31, .bit 1] scatteredBranches (.unsupported "trap")) ∧
    scatteredBranches.reverse.Perm scatteredBranches ∧
    ∃ sparse dense,
      ofListed [.bit 31, .bit 1] (.unsupported "trap") scatteredBranches.reverse = .ok sparse ∧
      ofEntries [.bit 31, .bit 1]
        [.unsupported "trap", Table.Branch.onCondition, Table.Branch.unconditional,
          .unsupported "trap"] = .ok dense ∧
      (∀ (state : DecodeState) word address,
        state.decode (belowFallback.fill sparse) word address =
          state.decode (belowFallback.fill dense) word address) ∧
      (belowFallback.fill sparse).walk.filter (·.finding.isLeaf) =
        (belowFallback.fill dense).walk.filter (·.finding.isLeaf) := by
  have accepted : ofListed [.bit 31, .bit 1] (.unsupported "trap") scatteredBranches =
      .ok (.sparse [.bit 31, .bit 1] scatteredBranches (.unsupported "trap")) := rfl
  have reversed : scatteredBranches.reverse.Perm scatteredBranches := List.reverse_perm _
  rcases (ofListed_agrees_with_ofEntries _ _ _).2.2 _ accepted _ reversed with
    ⟨sparse, dense, isSparse, isDense, agree⟩
  exact ⟨accepted, reversed, sparse, dense, isSparse, isDense, (agree belowFallback).2⟩

end PowerDisasm.DecodeTree
