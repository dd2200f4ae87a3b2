import Mathlib.Data.List.Dedup
import PowerDisasm.Proofs.DiagnosticGroups
import PowerDisasm.Proofs.DiagnosticLog
import PowerDisasm.Proofs.TextBytes

/-! # What a summary shows

A summary has the kinds and messages that were reported, each once and in order,
with the number of diagnostics that have them and the first of these. It shows
the same kinds, messages and numbers in whatever order the diagnostics came. -/

namespace PowerDisasm

open TextBytes (utf8)

/-! ## Keys of groups -/

def Diagnostic.key (diagnostic : Diagnostic) : DiagnosticKind × String :=
  (diagnostic.kind, diagnostic.message)

def KeyBefore (left right : DiagnosticKind × String) : Prop :=
  left.1.rank < right.1.rank ∨ (left.1 = right.1 ∧ utf8 left.2 < utf8 right.2)

theorem KeyBefore.asymm {left right : DiagnosticKind × String} (before : KeyBefore left right) :
    ¬ KeyBefore right left := by
  rintro (back | ⟨kinds, back⟩) <;> rcases before with lower | ⟨same, lower⟩
  · exact Nat.lt_asymm lower back
  · exact Nat.ne_of_gt back (congrArg DiagnosticKind.rank same)
  · exact Nat.ne_of_gt lower (congrArg DiagnosticKind.rank kinds)
  · exact List.lt_asymm lower back

namespace DiagnosticGroup

def key (group : DiagnosticGroup) : DiagnosticKind × String :=
  group.sample.key

def shown (group : DiagnosticGroup) : DiagnosticKind × String × Nat :=
  (group.sample.kind, group.sample.message, group.count)

theorem admits_eq (group : DiagnosticGroup) :
    group.admits = fun diagnostic => decide (diagnostic.key = group.key) := by
  funext diagnostic
  rw [Bool.eq_iff_iff, admits_iff, decide_eq_true_iff, key, Diagnostic.key, Diagnostic.key,
    Prod.mk.injEq, Diagnostic.Alike]

namespace Summarizes

variable {reported other : List Diagnostic} {groups otherGroups : List DiagnosticGroup}

theorem keys_ascending (summarizes : Summarizes reported groups) :
    (groups.map key).Pairwise KeyBefore := by
  apply List.pairwise_map.mpr
  apply summarizes.ascending.imp
  rintro left right (lower | ⟨kinds, lower⟩)
  · exact .inl lower
  · exact .inr ⟨kinds, TextBytes.utf8_lt_utf8 lower⟩

theorem mem_keys_iff (summarizes : Summarizes reported groups) {key : DiagnosticKind × String} :
    key ∈ groups.map DiagnosticGroup.key ↔ key ∈ reported.map Diagnostic.key := by
  rw [List.mem_map, List.mem_map]
  constructor
  · rintro ⟨group, member, rfl⟩
    exact ⟨group.sample, List.mem_of_find?_eq_some (summarizes.sample_first group member), rfl⟩
  · rintro ⟨diagnostic, member, rfl⟩
    rcases summarizes.covered diagnostic member with ⟨group, inGroups, admitted⟩
    rw [admits_eq, decide_eq_true_iff] at admitted
    exact ⟨group, inGroups, admitted.symm⟩

theorem keys_perm (summarizes : Summarizes reported groups) :
    (groups.map key).Perm (reported.map Diagnostic.key).dedup := by
  have nodup : (groups.map key).Nodup := by
    apply summarizes.keys_ascending.imp
    rintro left right before rfl
    exact before.asymm before
  rw [List.perm_ext_iff_of_nodup nodup (List.nodup_dedup _)]
  intro key
  rw [List.mem_dedup, summarizes.mem_keys_iff]

theorem count_eq_count_key (summarizes : Summarizes reported groups) {group : DiagnosticGroup}
    (member : group ∈ groups) : group.count = (reported.map Diagnostic.key).count group.key := by
  rw [summarizes.count_eq group member, admits_eq, List.count, List.countP_map]
  apply List.countP_congr
  intro diagnostic _
  rw [decide_eq_true_iff, Function.comp_apply, beq_iff_eq]

theorem sample_first_key (summarizes : Summarizes reported groups) {group : DiagnosticGroup}
    (member : group ∈ groups) :
    reported.find? (fun diagnostic => diagnostic.key = group.key) = some group.sample := by
  rw [← admits_eq]
  exact summarizes.sample_first group member

theorem keys_eq_of_perm (summarizes : Summarizes reported groups)
    (otherSummarizes : Summarizes other otherGroups) (perm : reported.Perm other) :
    groups.map key = otherGroups.map key := by
  have samePerm := (summarizes.keys_perm.trans (perm.map _).dedup).trans
    otherSummarizes.keys_perm.symm
  exact samePerm.eq_of_pairwise (fun _ _ _ _ before back => absurd back before.asymm)
    summarizes.keys_ascending otherSummarizes.keys_ascending

theorem map_shown (summarizes : Summarizes reported groups) :
    groups.map shown = (groups.map key).map fun key =>
      (key.1, key.2, (reported.map Diagnostic.key).count key) := by
  rw [List.map_map]
  apply List.map_congr_left
  intro group member
  rw [shown, summarizes.count_eq_count_key member]
  rfl

theorem shown_eq_of_perm (summarizes : Summarizes reported groups)
    (otherSummarizes : Summarizes other otherGroups) (perm : reported.Perm other) :
    groups.map shown = otherGroups.map shown := by
  rw [summarizes.map_shown, otherSummarizes.map_shown,
    summarizes.keys_eq_of_perm otherSummarizes perm]
  exact List.map_congr_left fun key _ => by rw [(perm.map Diagnostic.key).count_eq]

end Summarizes

end DiagnosticGroup

/-! ## Summaries at any time -/

namespace Collector

inductive Call where
  | report (diagnostic : Diagnostic)
  | summarize

def Call.reported? : Call → Option Diagnostic
  | .report diagnostic => some diagnostic
  | .summarize => none

def perform (collector : Collector) : Call → Option (List DiagnosticGroup) × Collector
  | .report diagnostic => (none, collector.report diagnostic)
  | .summarize => (some collector.summary, collector)

def after (collector : Collector) : List Call → Collector
  | [] => collector
  | call :: rest => (collector.perform call).2.after rest

theorem toList_after (collector : Collector) (calls : List Call) :
    (collector.after calls).toList = collector.toList ++ calls.filterMap Call.reported? := by
  induction calls generalizing collector with
  | nil => exact (List.append_nil _).symm
  | cons call rest induction =>
      rw [after, induction]
      cases call with
      | report diagnostic =>
          change (collector.report diagnostic).toList ++ _ = _
          rw [toList_report, List.append_assoc]
          rfl
      | summarize => rfl

/-- At any time a summary has one group for each kind and message reported so
far, in ascending order. A group has the first diagnostic of its kind and
message, and their number. Reports in another order only change the samples. -/
theorem summary_after (calls : List Call) :
    let collector := empty.after calls
    let reported := calls.filterMap Call.reported?
    let groups := collector.summary
    collector.toList = reported ∧
      (groups.map DiagnosticGroup.key).Perm (reported.map Diagnostic.key).dedup ∧
      (groups.map DiagnosticGroup.key).Pairwise KeyBefore ∧
      (∀ group ∈ groups, group.count = (reported.map Diagnostic.key).count group.key ∧
        reported.find? (fun diagnostic => diagnostic.key = group.key) = some group.sample) ∧
      (groups.map DiagnosticGroup.count).sum = collector.size ∧
      ∀ others, (others.filterMap Call.reported?).Perm reported →
        (empty.after others).summary.map DiagnosticGroup.shown =
          groups.map DiagnosticGroup.shown := by
  intro collector reported groups
  have summarizes (calls : List Call) : DiagnosticGroup.Summarizes
      (calls.filterMap Call.reported?) (empty.after calls).summary := by
    have collected := (empty.after calls).summarizes_summary
    rwa [toList_after] at collected
  have held : collector.toList = reported := toList_after empty calls
  refine ⟨held, (summarizes calls).keys_perm, (summarizes calls).keys_ascending,
    fun group member => ⟨(summarizes calls).count_eq_count_key member,
      (summarizes calls).sample_first_key member⟩, ?_,
    fun others perm => (summarizes others).shown_eq_of_perm (summarizes calls) perm⟩
  rw [(summarizes calls).sum_count]
  exact (congrArg List.length held).symm.trans Array.length_toList

end Collector

end PowerDisasm
