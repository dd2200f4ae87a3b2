import PowerDisasm.Bits.Field
import PowerDisasm.Text.Quoted

/-! # Decode trees

A decode tree finds the instruction form of a word. An inner node gathers a key
from the word and goes on with the entry of that key; a leaf is a form, or
says that the word has none. A dense node has its entries in the order of
their keys from zero, and keys beyond them have no form. A sparse node lists
some keys and goes on with one other tree, the fallback, for the rest. -/

namespace PowerDisasm

inductive DecodeTree (Form : Type) where
  | form (found : Form)
  | invalid
  | unsupported (message : String)
  | dense (key : List Field) (entries : List (DecodeTree Form))
  | sparse (key : List Field) (listed : List (Nat × DecodeTree Form))
      (fallback : DecodeTree Form)

inductive Terminal (Form : Type) where
  | form (found : Form)
  | unmapped
  | unsupported (message : String)
deriving DecidableEq

namespace DecodeTree

variable {Form : Type}

/-- Induction over a tree, with hypotheses for the entries of a node. -/
@[elab_as_elim, induction_eliminator]
theorem induction {motive : DecodeTree Form → Prop}
    (form : ∀ found, motive (.form found))
    (invalid : motive .invalid)
    (unsupported : ∀ message, motive (.unsupported message))
    (dense : ∀ key entries, (∀ entry ∈ entries, motive entry) → motive (.dense key entries))
    (sparse : ∀ key listed fallback, (∀ entry ∈ listed, motive entry.2) → motive fallback →
      motive (.sparse key listed fallback))
    (tree : DecodeTree Form) : motive tree :=
  DecodeTree.rec (motive_1 := motive)
    (motive_2 := fun entries => ∀ entry ∈ entries, motive entry)
    (motive_3 := fun listed => ∀ entry ∈ listed, motive entry.2)
    (motive_4 := fun entry => motive entry.2)
    form invalid unsupported dense sparse
    (by simp) (by simp_all) (by simp) (by simp_all) (by simp) tree

/-! ## Search -/

mutual
def reach (word : Word) : DecodeTree Form → Terminal Form
  | .form found => .form found
  | .invalid => .unmapped
  | .unsupported message => .unsupported message
  | .dense key entries => reachEntry word (Field.gather key word).toNat entries
  | .sparse key listed fallback =>
      match reachListed? word (Field.gather key word).toNat listed with
      | some terminal => terminal
      | none => reach word fallback

def reachEntry (word : Word) : Nat → List (DecodeTree Form) → Terminal Form
  | _, [] => .unmapped
  | 0, entry :: _ => reach word entry
  | position + 1, _ :: rest => reachEntry word position rest

def reachListed? (word : Word) (key : Nat) :
    List (Nat × DecodeTree Form) → Option (Terminal Form)
  | [] => none
  | (listedKey, entry) :: rest =>
      if listedKey = key then some (reach word entry) else reachListed? word key rest
end

/-! ## Construction -/

def ofEntries (key : List Field) (entries : List (DecodeTree Form)) :
    Except ConstructionFault (DecodeTree Form) :=
  let capacity := 1 <<< Field.totalLength key
  if entries.length ≤ capacity then
    .ok (.dense key entries)
  else
    .error (.tooManyEntries entries.length capacity)

/-- The first key in a list that has more than `width` bits or stands in the
list before. -/
def keyFault? (width : Nat) (earlier : List Nat) : List Nat → Option ConstructionFault
  | [] => none
  | key :: rest =>
      if 1 <<< width ≤ key then some (.keyTooLarge key width)
      else if key ∈ earlier then some (.repeatedKey key)
      else keyFault? width (key :: earlier) rest

example : keyFault? 4 [] [3, 16, 3] = some (.keyTooLarge 16 4) := by decide
example : keyFault? 4 [] [3, 15, 3] = some (.repeatedKey 3) := by decide

def ofListed (key : List Field) (fallback : DecodeTree Form)
    (listed : List (Nat × DecodeTree Form)) : Except ConstructionFault (DecodeTree Form) :=
  match keyFault? (Field.totalLength key) [] (listed.map (·.1)) with
  | none => .ok (.sparse key listed fallback)
  | some fault => .error fault

/-! ## Description -/

def describeNode (kind : String) (key : List Field) (entries : Nat) : String :=
  Record.describe kind [
    ("key", Record.list (key.map Field.describe)),
    ("entries", Numeral.decimal entries)]

def describe (describeForm : Form → String) : DecodeTree Form → String
  | .form found => describeForm found
  | .invalid => "Invalid"
  | .unsupported message => "Nyi(" ++ Quoted.quote message ++ ")"
  | .dense key _ => describeNode "Table" key (1 <<< Field.totalLength key)
  | .sparse key listed _ => describeNode "Sparse" key listed.length

end DecodeTree

end PowerDisasm
