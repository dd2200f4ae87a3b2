import Mathlib.Algebra.GroupWithZero.Nat
import PowerDisasm.Diagnostic.Collector

/-! # Groups of diagnostics

A summary has a group for each kind and message that was reported and for no
other, in ascending order. Each group counts its diagnostics and shows the first
of them. All of this is kept when one more diagnostic is reported. -/

namespace PowerDisasm

/-! ## The order of groups -/

namespace DiagnosticKind

theorem rank_injective : Function.Injective rank := by
  intro left right same
  cases left <;> cases right <;> simp_all [rank]

end DiagnosticKind

namespace Diagnostic

def Alike (left right : Diagnostic) : Prop :=
  left.kind = right.kind ∧ left.message = right.message

def Before (left right : Diagnostic) : Prop :=
  left.kind.rank < right.kind.rank ∨ (left.kind = right.kind ∧ left.message < right.message)

variable {first second third : Diagnostic}

theorem Alike.symm (alike : first.Alike second) : second.Alike first :=
  ⟨alike.1.symm, alike.2.symm⟩

theorem Alike.trans (alike : first.Alike second) (next : second.Alike third) :
    first.Alike third :=
  ⟨alike.1.trans next.1, alike.2.trans next.2⟩

theorem Before.not_alike (before : first.Before second) : ¬ first.Alike second := by
  rintro ⟨kinds, messages⟩
  rcases before with lower | ⟨_, lower⟩
  · exact Nat.ne_of_lt lower (congrArg DiagnosticKind.rank kinds)
  · exact String.lt_irrefl _ (messages ▸ lower)

theorem Before.trans (before : first.Before second) (next : second.Before third) :
    first.Before third := by
  rcases before with lower | ⟨kinds, lower⟩
  · rcases next with nextLower | ⟨nextKinds, _⟩
    · exact .inl (Nat.lt_trans lower nextLower)
    · exact .inl (nextKinds ▸ lower)
  · rcases next with nextLower | ⟨nextKinds, nextLower⟩
    · exact .inl (kinds ▸ nextLower)
    · exact .inr ⟨kinds.trans nextKinds, String.lt_trans lower nextLower⟩

theorem before_or_alike (notAfter : ¬ second.Before first) :
    first.Before second ∨ first.Alike second := by
  rcases Nat.lt_trichotomy first.kind.rank second.kind.rank with lower | same | higher
  · exact .inl (.inl lower)
  · have kinds := DiagnosticKind.rank_injective same
    by_cases messages : first.message = second.message
    · exact .inr ⟨kinds, messages⟩
    · have notLower : ¬ second.message < first.message :=
        fun lower => notAfter (.inr ⟨kinds.symm, lower⟩)
      exact .inl (.inr ⟨kinds, Std.lt_of_le_of_ne (String.not_lt.mp notLower) messages⟩)
  · exact absurd (.inl higher) notAfter

end Diagnostic

/-! ## Inserting a diagnostic -/

namespace DiagnosticGroup

theorem follows_iff {group : DiagnosticGroup} {diagnostic : Diagnostic} :
    group.follows diagnostic = true ↔ diagnostic.Before group.sample := by
  simp [follows, Diagnostic.Before]

theorem admits_iff {group : DiagnosticGroup} {diagnostic : Diagnostic} :
    group.admits diagnostic = true ↔ diagnostic.Alike group.sample := by
  simp [admits, Diagnostic.Alike]

def Ascending (groups : List DiagnosticGroup) : Prop :=
  groups.Pairwise fun left right => left.sample.Before right.sample

/-- What an insertion can do to groups: it opens a group in its place, or counts
the diagnostic in the group that admits it. -/
inductive Inserts (diagnostic : Diagnostic) :
    List DiagnosticGroup → List DiagnosticGroup → Prop where
  | opened (front back : List DiagnosticGroup)
      (before : ∀ group ∈ front, group.sample.Before diagnostic)
      (behind : ∀ group ∈ back, diagnostic.Before group.sample) :
      Inserts diagnostic (front ++ back) (front ++ ⟨diagnostic, 1⟩ :: back)
  | counted (front back : List DiagnosticGroup) (group : DiagnosticGroup)
      (alike : diagnostic.Alike group.sample) :
      Inserts diagnostic (front ++ group :: back)
        (front ++ ⟨group.sample, group.count + 1⟩ :: back)

theorem inserts_insert (diagnostic : Diagnostic) {groups : List DiagnosticGroup}
    (ascending : Ascending groups) : Inserts diagnostic groups (insert diagnostic groups) := by
  induction groups with
  | nil =>
      exact .opened [] [] (fun _ member => absurd member List.not_mem_nil)
        (fun _ member => absurd member List.not_mem_nil)
  | cons group rest induction =>
      rcases List.pairwise_cons.mp ascending with ⟨least, restAscending⟩
      rw [insert]
      split
      next follows =>
        have before := follows_iff.mp follows
        exact .opened [] (group :: rest) (fun _ member => absurd member List.not_mem_nil)
          (List.forall_mem_cons.mpr
            ⟨before, fun other member => before.trans (least other member)⟩)
      next notFollows =>
        split
        next admits => exact .counted [] rest group (admits_iff.mp admits)
        next notAdmits =>
          have before : group.sample.Before diagnostic := by
            rcases Diagnostic.before_or_alike fun before => notFollows (follows_iff.mpr before)
              with before | alike
            · exact before
            · exact absurd (admits_iff.mpr alike.symm) notAdmits
          generalize insert diagnostic rest = inserted at induction
          cases induction restAscending with
          | opened front back beforeAll behind =>
              exact .opened (group :: front) back
                (List.forall_mem_cons.mpr ⟨before, beforeAll⟩) behind
          | counted front back found alike => exact .counted (group :: front) back found alike

/-! ## Summaries -/

/-- The groups of reported diagnostics: each has a first one and a number. -/
structure Summarizes (reported : List Diagnostic) (groups : List DiagnosticGroup) : Prop where
  ascending : Ascending groups
  sample_first : ∀ group ∈ groups, reported.find? group.admits = some group.sample
  count_eq : ∀ group ∈ groups, group.count = reported.countP group.admits
  covered : ∀ diagnostic ∈ reported, ∃ group ∈ groups, group.admits diagnostic = true
  sum_count : (groups.map count).sum = reported.length

theorem summarizes_nil : Summarizes [] [] where
  ascending := .nil
  sample_first _ member := absurd member List.not_mem_nil
  count_eq _ member := absurd member List.not_mem_nil
  covered _ member := absurd member List.not_mem_nil
  sum_count := rfl

variable {reported : List Diagnostic} {groups : List DiagnosticGroup}

theorem mem_middle_iff {front back : List DiagnosticGroup} {group other : DiagnosticGroup} :
    other ∈ front ++ group :: back ↔ other = group ∨ other ∈ front ++ back :=
  List.perm_middle.mem_iff.trans List.mem_cons

/-- A diagnostic is reported: its group is given, and no other admits it. -/
theorem summarizes_of_middle {front back : List DiagnosticGroup} {middle : DiagnosticGroup}
    {diagnostic : Diagnostic} (ascending : Ascending (front ++ middle :: back))
    (alike : diagnostic.Alike middle.sample)
    (sample : (reported.find? middle.admits).or (some diagnostic) = some middle.sample)
    (count : middle.count = reported.countP middle.admits + 1)
    (apart : ∀ other ∈ front ++ back, ¬ diagnostic.Alike other.sample)
    (samples : ∀ other ∈ front ++ back, reported.find? other.admits = some other.sample)
    (counts : ∀ other ∈ front ++ back, other.count = reported.countP other.admits)
    (covered : ∀ earlier ∈ reported,
      ∃ group ∈ front ++ middle :: back, group.admits earlier = true)
    (sum : ((front ++ middle :: back).map DiagnosticGroup.count).sum = reported.length + 1) :
    Summarizes (reported ++ [diagnostic]) (front ++ middle :: back) := by
  have admitted := admits_iff.mpr alike
  have refused : ∀ other ∈ front ++ back, ¬ other.admits diagnostic = true := fun other member =>
    mt admits_iff.mp (apart other member)
  refine ⟨ascending, ?_, ?_, ?_, by rw [sum, List.length_append, List.length_singleton]⟩
  · intro other member
    rw [List.find?_append]
    rcases mem_middle_iff.mp member with rfl | member
    · rw [List.find?_cons_of_pos admitted, sample]
    · rw [samples other member, Option.some_or]
  · intro other member
    rw [List.countP_append, List.countP_singleton]
    rcases mem_middle_iff.mp member with rfl | member
    · rw [if_pos admitted, count]
    · rw [if_neg (refused other member), counts other member, Nat.add_zero]
  · intro other member
    rcases List.mem_append.mp member with earlier | isNew
    · exact covered other earlier
    · rw [List.mem_singleton.mp isNew]
      exact ⟨middle, mem_middle_iff.mpr (.inl rfl), admitted⟩

theorem Summarizes.opened {front back : List DiagnosticGroup}
    (summarizes : Summarizes reported (front ++ back)) {diagnostic : Diagnostic}
    (before : ∀ group ∈ front, group.sample.Before diagnostic)
    (behind : ∀ group ∈ back, diagnostic.Before group.sample) :
    Summarizes (reported ++ [diagnostic]) (front ++ ⟨diagnostic, 1⟩ :: back) := by
  have apart : ∀ group ∈ front ++ back, ¬ diagnostic.Alike group.sample := by
    intro group member
    rcases List.mem_append.mp member with inFront | inBack
    · exact fun alike => (before group inFront).not_alike alike.symm
    · exact (behind group inBack).not_alike
  have fresh : ∀ other ∈ reported, ¬ admits ⟨diagnostic, 1⟩ other = true := by
    intro other member alike
    rcases summarizes.covered other member with ⟨group, inGroups, admitted⟩
    exact apart group inGroups ((admits_iff.mp alike).symm.trans (admits_iff.mp admitted))
  have sum := summarizes.sum_count
  rcases List.pairwise_append.mp summarizes.ascending with ⟨frontAscending, backAscending, across⟩
  refine summarizes_of_middle ?_ ⟨rfl, rfl⟩ ?_ ?_ apart summarizes.sample_first
    summarizes.count_eq ?_ ?_
  · exact List.pairwise_append.mpr ⟨frontAscending,
      List.pairwise_cons.mpr ⟨behind, backAscending⟩,
      fun group member => List.forall_mem_cons.mpr ⟨before group member, across group member⟩⟩
  · rw [List.find?_eq_none.mpr fresh, Option.none_or]
  · rw [List.countP_eq_zero.mpr fresh]
  · intro earlier member
    rcases summarizes.covered earlier member with ⟨group, inGroups, admitted⟩
    exact ⟨group, mem_middle_iff.mpr (.inr inGroups), admitted⟩
  · simp only [List.map_append, List.map_cons, List.sum_append, List.sum_cons] at sum ⊢
    omega

theorem Summarizes.counted {front back : List DiagnosticGroup} {group : DiagnosticGroup}
    (summarizes : Summarizes reported (front ++ group :: back)) {diagnostic : Diagnostic}
    (alike : diagnostic.Alike group.sample) :
    Summarizes (reported ++ [diagnostic])
      (front ++ ⟨group.sample, group.count + 1⟩ :: back) := by
  have inGroups : group ∈ front ++ group :: back := mem_middle_iff.mpr (.inl rfl)
  have others : ∀ other ∈ front ++ back, other ∈ front ++ group :: back :=
    fun other member => mem_middle_iff.mpr (.inr member)
  have sum := summarizes.sum_count
  rcases List.pairwise_append.mp summarizes.ascending with ⟨frontAscending, restAscending, across⟩
  rcases List.pairwise_cons.mp restAscending with ⟨behind, backAscending⟩
  refine summarizes_of_middle ?_ alike ?_ ?_ ?_
    (fun other member => summarizes.sample_first other (others other member))
    (fun other member => summarizes.count_eq other (others other member)) ?_ ?_
  · exact List.pairwise_append.mpr ⟨frontAscending,
      List.pairwise_cons.mpr ⟨behind, backAscending⟩, fun other member =>
        List.forall_mem_cons.mpr (List.forall_mem_cons.mp (across other member))⟩
  · change (reported.find? group.admits).or _ = some group.sample
    rw [summarizes.sample_first group inGroups, Option.some_or]
  · rw [summarizes.count_eq group inGroups]
    rfl
  · intro other member otherAlike
    have same := alike.symm.trans otherAlike
    rcases List.mem_append.mp member with inFront | inBack
    · exact (across other inFront group List.mem_cons_self).not_alike same.symm
    · exact (behind other inBack).not_alike same
  · intro earlier member
    rcases summarizes.covered earlier member with ⟨found, inGroups, admitted⟩
    rcases mem_middle_iff.mp inGroups with rfl | another
    · exact ⟨_, mem_middle_iff.mpr (.inl rfl), admitted⟩
    · exact ⟨found, mem_middle_iff.mpr (.inr another), admitted⟩
  · simp only [List.map_append, List.map_cons, List.sum_append, List.sum_cons] at sum ⊢
    omega

theorem Summarizes.insert (summarizes : Summarizes reported groups) (diagnostic : Diagnostic) :
    Summarizes (reported ++ [diagnostic]) (insert diagnostic groups) := by
  have inserts := inserts_insert diagnostic summarizes.ascending
  generalize DiagnosticGroup.insert diagnostic groups = inserted at inserts ⊢
  cases inserts with
  | opened front back before behind => exact summarizes.opened before behind
  | counted front back group alike => exact summarizes.counted alike

theorem Summarizes.foldl (summarizes : Summarizes reported groups) (more : List Diagnostic) :
    Summarizes (reported ++ more)
      (more.foldl (fun groups diagnostic => DiagnosticGroup.insert diagnostic groups) groups) := by
  induction more generalizing reported groups with
  | nil => rwa [List.append_nil]
  | cons diagnostic rest induction =>
      have next := induction (summarizes.insert diagnostic)
      rwa [List.append_assoc] at next

end DiagnosticGroup

theorem Collector.summarizes_summary (collector : Collector) :
    DiagnosticGroup.Summarizes collector.toList collector.summary := by
  rw [summary, ← Array.foldl_toList]
  exact DiagnosticGroup.summarizes_nil.foldl collector.toList

end PowerDisasm
