import PowerDisasm.Yaml.Cursor

/-! # Plain text

Text without marks around it. It ends in front of a colon that a gap follows, in
front of a comment, and where a line below does not stand deep enough. Between
braces commas and brackets end it as well. -/

namespace PowerDisasm.Yaml.PlainText

structure Context where
  inFlow : Bool
  /-- The least column of its lines below the first. -/
  limit : Nat

structure Reading where
  text : List Char
  cursor : Cursor
  /-- Whether the place is on another line than the end of the text, or at the end. -/
  isBelow : Bool
deriving DecidableEq

/-! ## On one line -/

def isRefused (context : Context) : List Char → Bool
  | ':' :: next :: _ => context.inFlow && [',', '?', '[', ']', '{', '}'].contains next
  | _ => false

def stops (context : Context) : List Char → Bool
  | [] => true
  | character :: rest =>
      (character = ':' && atGap rest) || (isGap character && rest.head? = some '#') ||
        (context.inFlow && [',', '[', ']', '{', '}'].contains character) ||
        isRefused context (character :: rest)

def take (context : Context) : List Char → List Char × List Char
  | [] => ([], [])
  | character :: rest =>
      if stops context (character :: rest) then ([], character :: rest)
      else
        let (text, left) := take context rest
        (character :: text, left)

def trimGap (text : List Char) : List Char :=
  (text.reverse.dropWhile isGap).reverse

example : take ⟨false, 0⟩ "a:b : c".toList = ("a:b ".toList, ": c".toList) := by decide
example : take ⟨true, 0⟩ "a, b".toList = (['a'], ", b".toList) := by decide

/-! ## Over several lines -/

def goOn (context : Context) (text : List Char) (blankLines : Nat) (cursor : Cursor) :
    List (List Char) → Option Reading
  | [] => some ⟨text, cursor, true⟩
  | line :: below =>
      let start : Cursor := ⟨cursor.line + 1, 0, line, below⟩
      let place := start.skipWhile isGap
      if ((line.takeWhile isGap).take context.limit).contains '\t' then none
      else if place.rest.isEmpty then goOn context text (blankLines + 1) place below
      else if (!context.inFlow && place.column < context.limit) || start.atMark ||
          place.rest.head? = some '#' then
        some ⟨text, place, true⟩
      else
        let (part, left) := take context place.rest
        let longer := text ++ foldBreaks blankLines ++ trimGap part
        if isRefused context left then none
        else if part.isEmpty then some ⟨text, place, true⟩
        else if left.isEmpty then goOn context longer 0 (place.goTo []) below
        else some ⟨longer, place.goTo left, false⟩

def read? (context : Context) (cursor : Cursor) : Option Reading :=
  let (part, left) := take context cursor.rest
  if isRefused context left then none
  else if left.isEmpty then goOn context (trimGap part) 0 (cursor.goTo []) cursor.below
  else some ⟨trimGap part, cursor.goTo left, false⟩

example : (read? ⟨false, 1⟩ (.ofText "a\n b\n\n c # d".toList)).map (·.text) =
    some "a b\nc".toList := by decide

end PowerDisasm.Yaml.PlainText
