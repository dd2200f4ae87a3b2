import PowerDisasm.Text.Number
import PowerDisasm.Yaml.Cursor

/-! # Quoted text

Text between two quotation marks. Between single marks a mark is written twice.
Between double marks a backslash starts another way to write a character, and at
the end of a line it joins the lines. -/

namespace PowerDisasm.Yaml.QuotedText

/-! ## On one line -/

inductive Ending where
  | closed (rest : List Char)
  | broken
  /-- At a backslash at the end of the line. -/
  | joined
deriving DecidableEq

def prepend (character : Char) : List Char × Ending → List Char × Ending
  | (text, ending) => (character :: text, ending)

def takeSingle : List Char → List Char × Ending
  | [] => ([], .broken)
  | '\'' :: '\'' :: rest => prepend '\'' (takeSingle rest)
  | '\'' :: rest => ([], .closed rest)
  | character :: rest =>
      if (character :: rest).all isGap then ([], .broken)
      else prepend character (takeSingle rest)

example : takeSingle "a''b' c".toList = ("a'b".toList, .closed " c".toList) := by decide

def letters : List (Char × Char) :=
  [('0', '\x00'), ('a', '\x07'), ('b', '\x08'), ('t', '\t'), ('\t', '\t'), ('n', '\n'),
    ('v', '\x0b'), ('f', '\x0c'), ('r', '\r'), ('e', '\x1b'), (' ', ' '), ('"', '"'),
    ('/', '/'), ('\\', '\\'), ('N', '\u0085'), ('_', '\u00a0'), ('L', '\u2028'), ('P', '\u2029')]

def digitCount? : Char → Option Nat
  | 'x' => some 2
  | 'u' => some 4
  | 'U' => some 8
  | _ => none

def numbered? (count : Nat) (digits : List Char) : Option Char := do
  let number ← (Number.readDigits 16 0 digits).toOption
  if digits.length = count ∧ number.isValidChar then some (.ofNat number) else none

/-- The character that is meant behind a backslash, and how many characters are
used to write it. -/
def escaped? (letter : Char) (rest : List Char) : Option (Char × Nat) :=
  match digitCount? letter with
  | some count => (numbered? count (rest.take count)).map fun character => (character, count)
  | none => (letters.lookup letter).map fun character => (character, 0)

def takeDouble? : List Char → Option (List Char × Ending)
  | [] => some ([], .broken)
  | ['\\'] => some ([], .joined)
  | '\\' :: letter :: rest => do
      let (character, used) ← escaped? letter rest
      let taken ← takeDouble? (rest.drop used)
      some (prepend character taken)
  | '"' :: rest => some ([], .closed rest)
  | character :: rest =>
      if (character :: rest).all isGap then some ([], .broken)
      else (takeDouble? rest).map (prepend character)
termination_by line => line.length
decreasing_by all_goals simp [List.length_drop]; try omega

example : takeDouble? "\\x41\\n\" b".toList = some ("A\n".toList, .closed " b".toList) := by
  decide +kernel

def take? (mark : Char) (line : List Char) : Option (List Char × Ending) :=
  if mark = '"' then takeDouble? line else some (takeSingle line)

/-! ## Over several lines -/

structure Reading where
  text : List Char
  cursor : Cursor
deriving DecidableEq

def joint (ending : Ending) (blankLines : Nat) : List Char :=
  if ending = .joined then List.replicate blankLines '\n' else foldBreaks blankLines

def goOn? (mark : Char) (text : List Char) (ending : Ending) (blankLines : Nat) (line : Nat) :
    List (List Char) → Option Reading
  | [] => none
  | next :: below => do
      let start : Cursor := ⟨line + 1, 0, next, below⟩
      let place := start.skipWhile isGap
      if start.atMark then none
      else if place.rest.isEmpty then goOn? mark text ending (blankLines + 1) (line + 1) below
      else
        let (part, ending') ← take? mark place.rest
        let longer := text ++ joint ending blankLines ++ part
        match ending' with
        | .closed rest => some ⟨longer, place.goTo rest⟩
        | _ => goOn? mark longer ending' 0 (line + 1) below

def read? (cursor : Cursor) : Option Reading := do
  match cursor.rest with
  | [] => none
  | mark :: line =>
      let (part, ending) ← take? mark line
      match ending with
      | .closed rest => some ⟨part, cursor.goTo rest⟩
      | _ => goOn? mark part ending 0 cursor.line cursor.below

example : (read? (.ofText "'a \n\n b' c".toList)).map (·.text) = some "a\nb".toList := by decide
example : (read? (.ofText "\"a\\\n b\"".toList)).map (·.text) = some "ab".toList := by
  decide +kernel

end PowerDisasm.Yaml.QuotedText
