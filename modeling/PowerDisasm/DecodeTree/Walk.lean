import PowerDisasm.Bits.Pattern
import PowerDisasm.DecodeTree

/-! # Walking a decode tree

A walk lists the leaves of a tree, each with the pattern of the words that
lead to it. Where the key of an entry contradicts the bits that the nodes above
have fixed, no word leads to the entry; the forms below it are then listed as
shadowed, with the pattern of the node. A fallback that only contradicted keys
lead to is not listed. -/

namespace PowerDisasm

inductive Finding (Form : Type) where
  | leaf (terminal : Terminal Form)
  | shadowed (form : Form)
deriving DecidableEq

structure Visit (Form : Type) where
  pattern : Pattern
  finding : Finding Form
deriving DecidableEq

namespace DecodeTree

variable {Form : Type}

mutual
def shadowed : DecodeTree Form → List Form
  | .form found => [found]
  | .invalid => []
  | .unsupported _ => []
  | .dense _ entries => shadowedEntries entries
  | .sparse key listed _ =>
      (List.range (1 <<< Field.totalLength key)).flatMap fun value =>
        shadowedListed value listed

def shadowedEntries : List (DecodeTree Form) → List Form
  | [] => []
  | entry :: rest => shadowed entry ++ shadowedEntries rest

def shadowedEntry : Nat → List (DecodeTree Form) → List Form
  | _, [] => []
  | 0, entry :: _ => shadowed entry
  | position + 1, _ :: rest => shadowedEntry position rest

def shadowedListed (key : Nat) : List (Nat × DecodeTree Form) → List Form
  | [] => []
  | (listedKey, entry) :: rest =>
      if listedKey = key then shadowed entry else shadowedListed key rest
end

/-- Visits to shadowed forms, with the pattern of the node that shadows them. -/
def shadows (pattern : Pattern) (forms : List Form) : List (Visit Form) :=
  forms.map fun form => ⟨pattern, .shadowed form⟩

mutual
def walkFrom (pattern : Pattern) : DecodeTree Form → List (Visit Form)
  | .form found => [⟨pattern, .leaf (.form found)⟩]
  | .invalid => [⟨pattern, .leaf .unmapped⟩]
  | .unsupported message => [⟨pattern, .leaf (.unsupported message)⟩]
  | .dense key entries =>
      (List.range (1 <<< Field.totalLength key)).flatMap fun value =>
        match pattern.refine? (Field.mask key) (Field.scatter key (BitVec.ofNat 32 value)) with
        | some refined => walkEntry refined value entries
        | none => shadows pattern (shadowedEntry value entries)
  | .sparse key listed fallback =>
      (List.range (1 <<< Field.totalLength key)).flatMap fun value =>
        match pattern.refine? (Field.mask key) (Field.scatter key (BitVec.ofNat 32 value)) with
        | some refined =>
            match walkListed? refined value listed with
            | some visits => visits
            | none => walkFrom refined fallback
        | none => shadows pattern (shadowedListed value listed)

def walkEntry (pattern : Pattern) : Nat → List (DecodeTree Form) → List (Visit Form)
  | _, [] => [⟨pattern, .leaf .unmapped⟩]
  | 0, entry :: _ => walkFrom pattern entry
  | position + 1, _ :: rest => walkEntry pattern position rest

def walkListed? (pattern : Pattern) (key : Nat) :
    List (Nat × DecodeTree Form) → Option (List (Visit Form))
  | [] => none
  | (listedKey, entry) :: rest =>
      if listedKey = key then some (walkFrom pattern entry) else walkListed? pattern key rest
end

def walk (tree : DecodeTree Form) : List (Visit Form) :=
  walkFrom Pattern.any tree

end DecodeTree

end PowerDisasm
