import PowerDisasm.Text.Pieces
import PowerDisasm.Yaml.Node
import PowerDisasm.Yaml.TokenReader

/-! # Documents

A document holds one mapping, or nothing. Its entries are pairs of scalars, in
the order in which they are written. -/

namespace PowerDisasm.Yaml

/-! ## Structure -/

structure Mapping where
  anchor : Option (List Char)
  entries : List Entry
deriving DecidableEq

namespace Mapping

def empty : Mapping := ⟨none, []⟩

def blockEntries? (directives : List Directive) (tokens : List Token) : Option (List Entry) :=
  match pieces (· = .key) tokens with
  | [] :: entries => entries.mapM (Entry.ofTokens? directives)
  | _ => none

/-- The entries between braces. A comma may stand behind the last one. -/
def flowEntries? (directives : List Directive) (tokens : List Token) : Option (List Entry) :=
  let entries := pieces (· = .flowEntry) tokens
  let entries := if entries.getLast? = some [] then entries.dropLast else entries
  entries.mapM (Entry.ofFlow? directives)

def isOver (tokens : List Token) : Bool :=
  tokens.all (· = .documentEnd)

/-- The mapping that is the content of a document. Nothing may stand for the empty
mapping behind a mark for the start of the document, or behind properties. -/
def ofContent? (directives : List Directive) (isOpened : Bool) (tokens : List Token) :
    Option Mapping := do
  let (properties, content) ← Properties.take? directives tokens
  match content with
  | .mappingStart :: rest =>
      let entries ← blockEntries? directives (rest.takeWhile (· ≠ .mappingEnd))
      let left := rest.dropWhile (· ≠ .mappingEnd)
      if isOver left.tail then some ⟨properties.anchor, entries⟩ else none
  | .flowStart :: rest =>
      let entries ← flowEntries? directives (rest.takeWhile (· ≠ .flowEnd))
      match rest.dropWhile (· ≠ .flowEnd) with
      | _ :: left => if isOver left then some ⟨properties.anchor, entries⟩ else none
      | [] => none
  | left =>
      if (isOpened || properties ≠ .none) && isOver left then some empty else none

def takeDirectives : List Token → List Directive × List Token
  | .directive directive :: rest =>
      let (directives, left) := takeDirectives rest
      (directive :: directives, left)
  | tokens => ([], tokens)

/-- The mapping of a text that has one document. Behind directives a mark for the
start of the document has to follow. -/
def ofTokens? (tokens : List Token) : Option Mapping :=
  if tokens.isEmpty then some empty
  else
    match takeDirectives tokens with
    | (directives, .documentStart :: content) =>
        if Directive.agree directives then ofContent? directives true content else none
    | ([], content) => ofContent? [] false content
    | _ => none

end Mapping

/-! ## Anchors -/

/-- The anchors up to a place. An anchor has as its number how many other names
were given before it, and a number stands for the last scalar that got it. The
mapping can have an anchor too, but is no scalar. -/
structure Anchors where
  numbers : List (List Char × Nat)
  scalars : List (Nat × Option Scalar)

namespace Anchors

def empty : Anchors := ⟨[], []⟩

def add (anchors : Anchors) (scalar : Option Scalar) : Option (List Char) → Anchors
  | none => anchors
  | some name =>
      let number := anchors.numbers.length
      ⟨(name, number) :: anchors.numbers.filter (·.1 ≠ name),
        (number, scalar) :: anchors.scalars⟩

end Anchors

/-- A scalar, or the number of an anchor that stands for one. -/
abbrev Linked := Scalar ⊕ Nat

def Node.link? (anchors : Anchors) : Node → Option (Linked × Anchors)
  | .alias name => (anchors.numbers.lookup name).map fun number => (.inr number, anchors)
  | .scalar anchor given => some (.inl given, anchors.add (some given) anchor)

def Entry.link? (anchors : Anchors) (entry : Entry) :
    Option ((Linked × Linked) × Anchors) := do
  let (key, anchors) ← entry.key.link? anchors
  let (value, anchors) ← entry.value.link? anchors
  some ((key, value), anchors)

def Anchors.scalar? (anchors : Anchors) : Linked → Option Scalar
  | .inl scalar => some scalar
  | .inr number => (anchors.scalars.lookup number).join

namespace Mapping

def linkEntries? (anchors : Anchors) : List Entry → Option (List (Linked × Linked) × Anchors)
  | [] => some ([], anchors)
  | entry :: rest => do
      let (linked, anchors) ← entry.link? anchors
      let (others, anchors) ← linkEntries? anchors rest
      some (linked :: others, anchors)

def scalars? (mapping : Mapping) : Option (List (Scalar × Scalar)) := do
  let (entries, anchors) ← linkEntries? (Anchors.empty.add none mapping.anchor) mapping.entries
  entries.mapM fun (key, value) => do
    some (← anchors.scalar? key, ← anchors.scalar? value)

end Mapping

/-! ## Text -/

/-- The keys and values that a text gives, if it is one document whose mapping has
scalars only. -/
def entries? (text : List Char) : Option (List (Scalar × Scalar)) := do
  (← Mapping.ofTokens? (← Token.ofText? text)).scalars?

example : entries? "&a b: 'c'\nd: *a".toList = some
    [(⟨.plain, none, ['b']⟩, ⟨.quoted, none, ['c']⟩),
      (⟨.plain, none, ['d']⟩, ⟨.plain, none, ['b']⟩)] := by decide +kernel
example : entries? "--- # nothing".toList = some [] := by decide +kernel

end PowerDisasm.Yaml
