import PowerDisasm.DecodeTree.Walk
import PowerDisasm.Table.Primary

/-! # Statistics of an instruction tree

How many leaves of each kind a tree has, and how many words they stand for. -/

namespace PowerDisasm

structure TreeStatistics where
  instructions : Nat
  mnemonics : Nat
  unsupported : Nat
  /-- Words that no instruction has by the tree alone. -/
  unmappedWords : Nat
  shadowed : Nat
deriving DecidableEq

namespace TreeStatistics

def reachedForms (visits : List (Visit InstructionForm)) : List InstructionForm :=
  visits.filterMap fun visit =>
    match visit.finding with
    | .leaf (.form form) => some form
    | _ => none

def distinctMnemonics (forms : List InstructionForm) : List Mnemonic :=
  (forms.map (·.mnemonic)).eraseDups

def unsupportedCount (visits : List (Visit InstructionForm)) : Nat :=
  visits.countP fun visit =>
    match visit.finding with
    | .leaf (.unsupported _) => true
    | _ => false

def shadowedCount (visits : List (Visit InstructionForm)) : Nat :=
  visits.countP fun visit =>
    match visit.finding with
    | .shadowed _ => true
    | _ => false

def unmappedWordCount (visits : List (Visit InstructionForm)) : Nat :=
  (visits.map fun visit =>
    match visit.finding with
    | .leaf .unmapped => visit.pattern.wordCount
    | _ => 0).foldl (· + ·) 0

def ofTree (tree : DecodeTree InstructionForm) : TreeStatistics :=
  let visits := tree.walk
  let forms := reachedForms visits
  { instructions := forms.length
    mnemonics := (distinctMnemonics forms).length
    unsupported := unsupportedCount visits
    unmappedWords := unmappedWordCount visits
    shadowed := shadowedCount visits }

end TreeStatistics

def Model.statistics (model : Model) : TreeStatistics :=
  .ofTree model.tree

end PowerDisasm
