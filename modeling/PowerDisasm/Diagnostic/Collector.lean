import PowerDisasm.Diagnostic

/-! # Collected diagnostics

Diagnostics in the order in which they were reported, and a summary of them
that has one group for each kind and message. -/

namespace PowerDisasm

structure DiagnosticGroup where
  sample : Diagnostic
  count : Nat
deriving DecidableEq

namespace DiagnosticGroup

/-- Whether a diagnostic belongs in front of the group: kinds by rank, then
messages by their characters. -/
def follows (group : DiagnosticGroup) (diagnostic : Diagnostic) : Bool :=
  diagnostic.kind.rank < group.sample.kind.rank ||
    (diagnostic.kind = group.sample.kind && diagnostic.message < group.sample.message)

def admits (group : DiagnosticGroup) (diagnostic : Diagnostic) : Bool :=
  diagnostic.kind = group.sample.kind && diagnostic.message = group.sample.message

/-- Counts a diagnostic in its group, or opens a group for it in its place. -/
def insert (diagnostic : Diagnostic) : List DiagnosticGroup → List DiagnosticGroup
  | [] => [⟨diagnostic, 1⟩]
  | group :: rest =>
      if group.follows diagnostic then ⟨diagnostic, 1⟩ :: group :: rest
      else if group.admits diagnostic then ⟨group.sample, group.count + 1⟩ :: rest
      else group :: insert diagnostic rest

end DiagnosticGroup

structure Collector where
  reported : Array Diagnostic
deriving DecidableEq

namespace Collector

def empty : Collector := ⟨#[]⟩

def report (collector : Collector) (diagnostic : Diagnostic) : Collector :=
  ⟨collector.reported.push diagnostic⟩

def size (collector : Collector) : Nat :=
  collector.reported.size

def isEmpty (collector : Collector) : Bool :=
  collector.reported.isEmpty

def toList (collector : Collector) : List Diagnostic :=
  collector.reported.toList

def take (collector : Collector) : List Diagnostic × Collector :=
  (collector.toList, empty)

def summary (collector : Collector) : List DiagnosticGroup :=
  collector.reported.foldl (fun groups diagnostic => DiagnosticGroup.insert diagnostic groups) []

end Collector

end PowerDisasm
