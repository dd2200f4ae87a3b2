/-! # Places in a YAML text

A text is read from line to line. A cursor is a place in it: what is left of a
line, and the lines below. -/

namespace PowerDisasm.Yaml

/-! ## Characters -/

def isGap (character : Char) : Bool :=
  character = ' ' || character = '\t'

def atGap : List Char → Bool
  | [] => true
  | character :: _ => isGap character

def isWord (character : Char) : Bool :=
  character.isAlphanum || character = '_' || character = '-'

def isLineBreak (character : Char) : Bool :=
  ['\n', '\r', '\u0085', '\u2028', '\u2029'].contains character

def orderMark : Char := '\ufeff'

/-- The characters that a text may hold: no controls, unless they break lines or
keep parts of a line apart. -/
def mayHold (character : Char) : Bool :=
  let code := character.toNat
  isLineBreak character || isGap character || (0x20 ≤ code && code ≤ 0x7E) ||
    (0xA0 ≤ code && code ≤ 0xFFFD) || 0x10000 ≤ code

/-! ## Lines -/

/-- The lines of a text. A return and a line feed behind it are one break. -/
def lines : List Char → List (List Char)
  | [] => [[]]
  | '\r' :: '\n' :: rest => [] :: lines rest
  | character :: rest =>
      if isLineBreak character then [] :: lines rest
      else (lines rest).modifyHead (character :: ·)

example : lines "a\r\n\rb".toList = ["a".toList, [], "b".toList] := by decide

/-- Whether nothing but a comment is left of a line. -/
def atEnd (line : List Char) : Bool :=
  match line.dropWhile isGap with
  | [] => true
  | character :: _ => character = '#'

/-- A text that goes on below, behind some blank lines. One break alone turns
into a space. -/
def foldBreaks (blankLines : Nat) : List Char :=
  if blankLines = 0 then [' '] else List.replicate blankLines '\n'

/-! ## Cursors -/

structure Cursor where
  line : Nat
  column : Nat
  rest : List Char
  below : List (List Char)
deriving DecidableEq

namespace Cursor

def ofText (text : List Char) : Cursor :=
  match lines text with
  | [] => ⟨0, 0, [], []⟩
  | first :: below => ⟨0, 0, first, below⟩

def skip (cursor : Cursor) (count : Nat) : Cursor :=
  { cursor with column := cursor.column + count, rest := cursor.rest.drop count }

def goTo (cursor : Cursor) (rest : List Char) : Cursor :=
  { cursor with column := cursor.column + (cursor.rest.length - rest.length), rest := rest }

def skipWhile (cursor : Cursor) (passes : Char → Bool) : Cursor :=
  cursor.goTo (cursor.rest.dropWhile passes)

def down (cursor : Cursor) : Cursor :=
  match cursor.below with
  | [] => cursor.goTo []
  | next :: below => ⟨cursor.line + 1, 0, next, below⟩

def atMark (cursor : Cursor) : Bool :=
  cursor.column = 0 && (["---".toList, "...".toList].contains (cursor.rest.take 3)) &&
    atGap (cursor.rest.drop 3)

example : (ofText "--- a".toList).atMark = true := by decide
example : (ofText "---a".toList).atMark = false := by decide

end Cursor

end PowerDisasm.Yaml
