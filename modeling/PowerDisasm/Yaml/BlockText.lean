import PowerDisasm.Yaml.Scalar

/-! # Text in a block

Text on lines of its own, which all begin with the same number of spaces. The
line above has a mark that says whether breaks between the lines are kept, and
may say how deep the lines stand and what becomes of the breaks behind them. -/

namespace PowerDisasm.Yaml.BlockText

/-! ## The line above -/

/-- What becomes of the breaks behind the text, if not just one is kept. -/
inductive Chomping where
  | strip
  | keep
deriving DecidableEq

structure Header where
  folded : Bool
  chomping : Option Chomping
  /-- How much deeper than what is around them the lines stand, if that is said. -/
  indent : Option Nat
deriving DecidableEq

def chomping? : Char → Option Chomping
  | '-' => some .strip
  | '+' => some .keep
  | _ => none

def indent? (character : Char) : Option Nat :=
  if '1' ≤ character ∧ character ≤ '9' then some (character.toNat - '0'.toNat) else none

namespace Header

def add? (header : Header) (character : Char) : Option Header :=
  match header.chomping, chomping? character, header.indent, indent? character with
  | none, some chomping, _, _ => some { header with chomping := some chomping }
  | _, _, none, some indent => some { header with indent := some indent }
  | _, _, _, _ => none

def complete? (header : Header) : List Char → Option Header
  | [] => some header
  | character :: rest =>
      match header.add? character with
      | some header => header.complete? rest
      | none => if atEnd (character :: rest) then some header else none

def ofLine? : List Char → Option Header
  | '|' :: rest => complete? ⟨false, none, none⟩ rest
  | '>' :: rest => complete? ⟨true, none, none⟩ rest
  | _ => none

example : ofLine? ">-2 # c".toList = some ⟨true, some .strip, some 2⟩ := by decide
example : ofLine? "|0".toList = none := by decide

end Header

/-! ## The lines -/

/-- The number of spaces in front of the first line that is not blank, or in front
of a blank line above it, whichever is greater. A tab in front is refused. -/
def deepest? (reached : Nat) : List (List Char) → Option Nat
  | [] => some reached
  | line :: below =>
      let spaces := (line.takeWhile (· = ' ')).length
      match line.drop spaces with
      | [] => deepest? (max reached spaces) below
      | '\t' :: _ => none
      | _ => some (max reached spaces)

structure Reading where
  text : List Char
  /-- Whether a break ends the last line of the text. -/
  isBroken : Bool
  blankLines : Nat
  hasGap : Bool
  cursor : Cursor
deriving DecidableEq

namespace Reading

def joint (folded : Bool) (reading : Reading) (line : List Char) : List Char :=
  let blank := List.replicate reading.blankLines '\n'
  if !reading.isBroken then blank
  else if folded && !reading.hasGap && !atGap line then foldBreaks reading.blankLines
  else '\n' :: blank

def finish (reading : Reading) (chomping : Option Chomping) : List Char :=
  let last := if reading.isBroken then ['\n'] else []
  match chomping with
  | some .strip => reading.text
  | none => reading.text ++ last
  | some .keep => reading.text ++ last ++ List.replicate reading.blankLines '\n'

end Reading

def goOn? (folded : Bool) (indent : Nat) (reading : Reading) : List (List Char) → Option Reading
  | [] => some reading
  | line :: below =>
      let spaces := min indent (line.takeWhile (· = ' ')).length
      let place : Cursor := ⟨reading.cursor.line + 1, spaces, line.drop spaces, below⟩
      if place.rest.isEmpty then
        let blankLines := if below.isEmpty then reading.blankLines else reading.blankLines + 1
        goOn? folded indent { reading with blankLines := blankLines, cursor := place } below
      else if place.column < indent then
        if place.rest.head? = some '\t' then none else some { reading with cursor := place }
      else
        goOn? folded indent
          { text := reading.text ++ reading.joint folded place.rest ++ place.rest
            isBroken := !below.isEmpty
            blankLines := 0
            hasGap := atGap place.rest
            cursor := place.goTo [] } below

structure Block where
  style : Style
  text : List Char
  cursor : Cursor
deriving DecidableEq

/-- Reads the text whose mark stands at a place. `around` is the column of the
mapping around it, if there is one. -/
def read? (around : Option Nat) (cursor : Cursor) : Option Block := do
  let header ← Header.ofLine? cursor.rest
  let indent ← match header.indent with
    | some more => some (around.getD 0 + more)
    | none => (deepest? 0 cursor.below).map (max (max 1 (around.elim 0 (· + 1))))
  let reading ← goOn? header.folded indent ⟨[], false, 0, false, cursor.goTo []⟩ cursor.below
  some ⟨if header.folded then .folded else .literal, reading.finish header.chomping,
    reading.cursor⟩

example : (read? none (.ofText ">\n a\n b\n\n  c\n".toList)).map (·.text) =
    some "a b\n\n c\n".toList := by decide

end PowerDisasm.Yaml.BlockText
