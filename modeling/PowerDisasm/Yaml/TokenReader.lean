import PowerDisasm.Yaml.BlockText
import PowerDisasm.Yaml.PlainText
import PowerDisasm.Yaml.QuotedText
import PowerDisasm.Yaml.Token

/-! # Reading tokens

A reader goes through a text from token to token. That a mapping or a key begins
is often seen only at the colon behind the key, so the tokens since a place at
which a key may have begun are kept apart until that is settled. -/

namespace PowerDisasm.Yaml

structure TokenReader where
  cursor : Cursor
  /-- The tokens behind which nothing can be put any more but further tokens. -/
  settled : List Token
  candidate : Option KeyCandidate
  inFlow : Bool
  /-- The column of keys that stand one above the other, if there are any. -/
  indent : Option Nat
  allowsKey : Bool
deriving DecidableEq

namespace TokenReader

def ofText (text : List Char) : TokenReader :=
  ⟨.ofText text, [], none, false, none, true⟩

/-! ## Tokens and keys -/

def push (reader : TokenReader) (token : Token) : TokenReader :=
  match reader.candidate with
  | none => { reader with settled := reader.settled ++ [token] }
  | some candidate =>
      { reader with candidate := some { candidate with tokens := candidate.tokens ++ [token] } }

def pass (reader : TokenReader) (token : Token) (cursor : Cursor) : TokenReader :=
  { reader.push token with cursor := cursor }

def settle? (reader : TokenReader) : Option TokenReader :=
  match reader.candidate with
  | none => some reader
  | some candidate =>
      if candidate.required then none
      else some { reader with settled := reader.settled ++ candidate.tokens, candidate := none }

def settleStale? (reader : TokenReader) : Option TokenReader :=
  if reader.candidate.any (·.isStale reader.cursor) then reader.settle? else some reader

def offerKey? (reader : TokenReader) : Option TokenReader := do
  if reader.allowsKey then
    let reader ← reader.settle?
    let required := !reader.inFlow && reader.indent = some reader.cursor.column
    some { reader with
      candidate := some ⟨required, reader.cursor.line, reader.cursor.column, []⟩
      allowsKey := false }
  else
    some reader

/-- The tokens in front of a key in a column. A key deeper than the others would
begin a mapping inside of the first. -/
def opening? (reader : TokenReader) (column : Nat) : Option (List Token) :=
  match reader.inFlow, reader.indent with
  | true, _ => some []
  | false, none => some [.mappingStart]
  | false, some indent => if indent < column then none else some []

def indentTo (reader : TokenReader) (column : Nat) : TokenReader :=
  if reader.inFlow then reader else { reader with indent := some (reader.indent.getD column) }

def openHere? (reader : TokenReader) : Option TokenReader := do
  if reader.inFlow || reader.allowsKey then
    let opening ← reader.opening? reader.cursor.column
    let reader := opening.foldl push (reader.indentTo reader.cursor.column)
    some { reader with allowsKey := !reader.inFlow }
  else
    none

def close (reader : TokenReader) : TokenReader :=
  if reader.indent.isSome then { reader with indent := none }.push .mappingEnd else reader

def closeAbove (reader : TokenReader) : TokenReader :=
  if reader.indent.any (reader.cursor.column < ·) then reader.close else reader

/-! ## Between tokens -/

def skipOrderMark (reader : TokenReader) : TokenReader :=
  if reader.cursor.column = 0 && reader.cursor.rest.head? = some orderMark then
    { reader with cursor := reader.cursor.skip 1 }
  else
    reader

/-- A gap, which holds no tabs where its depth may be the depth of a key. -/
def skipGap (reader : TokenReader) : TokenReader :=
  let tabs := reader.inFlow || !reader.allowsKey
  { reader with
    cursor := reader.cursor.skipWhile fun character =>
      character = ' ' || (tabs && character = '\t') }

def isAtEnd (reader : TokenReader) : Bool :=
  reader.cursor.rest.isEmpty || reader.cursor.rest.head? = some '#'

def skipBlank (reader : TokenReader) : List (List Char) → TokenReader
  | [] =>
      let here := reader.skipOrderMark.skipGap
      if here.isAtEnd then { here with cursor := here.cursor.goTo [] } else here
  | line :: below =>
      let here := reader.skipOrderMark.skipGap
      if here.isAtEnd then
        skipBlank { here with
          cursor := ⟨here.cursor.line + 1, 0, line, below⟩
          allowsKey := here.allowsKey || !here.inFlow } below
      else
        here

/-! ## Marks -/

/-- What stands between documents ends all that is open. -/
def separate? (reader : TokenReader) : Option TokenReader := do
  let reader ← reader.close.settle?
  some { reader with allowsKey := false }

def directive? (reader : TokenReader) : Option TokenReader := do
  let directive ← Directive.ofLine? reader.cursor.rest
  some ((← reader.separate?).pass (.directive directive) reader.cursor.down)

def documentMark? (reader : TokenReader) : Option TokenReader := do
  let token : Token := if reader.cursor.rest.head? = some '-' then .documentStart else .documentEnd
  some ((← reader.separate?).pass token (reader.cursor.skip 3))

/-- A brace opens a mapping, unless it would stand inside of another. -/
def flowStart? (reader : TokenReader) : Option TokenReader := do
  if reader.inFlow || reader.indent.isSome then none
  else
    let reader ← reader.settle?
    some ({ reader with inFlow := true, allowsKey := true }.pass .flowStart
      (reader.cursor.skip 1))

def flowEnd? (reader : TokenReader) : Option TokenReader := do
  if reader.inFlow then
    let reader ← reader.settle?
    some ({ reader with inFlow := false, allowsKey := false }.pass .flowEnd
      (reader.cursor.skip 1))
  else
    none

def flowEntry? (reader : TokenReader) : Option TokenReader := do
  if reader.inFlow then
    let reader ← reader.settle?
    some ({ reader with allowsKey := true }.pass .flowEntry (reader.cursor.skip 1))
  else
    none

def key? (reader : TokenReader) : Option TokenReader := do
  let reader ← (← reader.openHere?).settle?
  some (reader.pass .key (reader.cursor.skip 1))

/-- A colon makes a key of what began at the candidate. -/
def value? (reader : TokenReader) : Option TokenReader := do
  match reader.candidate with
  | none => some ((← reader.openHere?).pass .value (reader.cursor.skip 1))
  | some candidate =>
      let opening ← reader.opening? candidate.column
      let settled := reader.settled ++ opening ++ .key :: candidate.tokens
      some ({ reader.indentTo candidate.column with
        settled := settled, candidate := none, allowsKey := false }.pass .value
        (reader.cursor.skip 1))

/-! ## Parts of a key or value -/

def endsName (rest : List Char) : Bool :=
  atGap rest || "?:,]\x7d%@\x60".toList.contains (rest.headD ' ')

def name? (reader : TokenReader) : Option (List Char × List Char) :=
  let behind := reader.cursor.rest.drop 1
  let name := behind.takeWhile isWord
  let left := behind.dropWhile isWord
  if name.isEmpty || !endsName left then none else some (name, left)

def anchor? (reader : TokenReader) : Option TokenReader := do
  let (name, left) ← reader.name?
  some ((← reader.offerKey?).pass (.anchor name) (reader.cursor.goTo left))

def alias? (reader : TokenReader) : Option TokenReader := do
  let (name, left) ← reader.name?
  some ((← reader.offerKey?).pass (.alias name) (reader.cursor.goTo left))

def tag? (reader : TokenReader) : Option TokenReader := do
  let (written, left) ← WrittenTag.take? reader.cursor.rest
  if atGap left || (reader.inFlow && left.head? = some ',') then
    some ((← reader.offerKey?).pass (.tag written) (reader.cursor.goTo left))
  else
    none

def block? (reader : TokenReader) : Option TokenReader := do
  let block ← BlockText.read? reader.indent reader.cursor
  let reader ← reader.settle?
  some ({ reader with allowsKey := true }.pass (.scalar block.style block.text) block.cursor)

def quoted? (reader : TokenReader) : Option TokenReader := do
  let reading ← QuotedText.read? reader.cursor
  some ((← reader.offerKey?).pass (.scalar .quoted reading.text) reading.cursor)

def startsPlain (inFlow : Bool) (character : Char) (rest : List Char) : Bool :=
  if character = '-' then !atGap rest
  else if character = '?' || character = ':' then !inFlow && !atGap rest
  else !isGap character && !",[]\x7b\x7d#&*!|>'\"%@\x60".toList.contains character

def plain? (reader : TokenReader) : Option TokenReader := do
  let context : PlainText.Context := ⟨reader.inFlow, reader.indent.elim 0 (· + 1)⟩
  let reading ← PlainText.read? context reader.cursor
  let reader ← reader.offerKey?
  some ({ reader with allowsKey := reading.isBelow }.pass (.scalar .plain reading.text)
    reading.cursor)

/-! ## All tokens -/

def step? (reader : TokenReader) : Option TokenReader :=
  match reader.cursor.rest with
  | [] => none
  | character :: rest =>
      let isIndicator := reader.inFlow || atGap rest
      if reader.cursor.column = 0 && character = '%' then reader.directive?
      else if reader.cursor.atMark then reader.documentMark?
      else if character = '\x7b' then reader.flowStart?
      else if character = '\x7d' then reader.flowEnd?
      else if character = ',' then reader.flowEntry?
      else if character = '?' && isIndicator then reader.key?
      else if character = ':' && isIndicator then reader.value?
      else if character = '*' then reader.alias?
      else if character = '&' then reader.anchor?
      else if character = '!' then reader.tag?
      else if (character = '|' || character = '>') && !reader.inFlow then reader.block?
      else if character = '\'' || character = '"' then reader.quoted?
      else if startsPlain reader.inFlow character rest then reader.plain?
      else none

/-- Reads to the end of the text. No token is empty, so the fuel need not be
greater than the number of characters. -/
def run? : Nat → TokenReader → Option TokenReader
  | 0, _ => none
  | fuel + 1, reader => do
      let reader ← (reader.skipBlank reader.cursor.below).settleStale?
      let reader := reader.closeAbove
      if reader.cursor.rest.isEmpty then reader.close.settle?
      else run? fuel (← reader.step?)

end TokenReader

namespace Token

def ofText? (text : List Char) : Option (List Token) :=
  if text.all mayHold then
    (TokenReader.run? (text.length + 1) (.ofText text)).map (·.settled)
  else
    none

example : ofText? "a: *b".toList = some
    [.mappingStart, .key, .scalar .plain ['a'], .value, .alias ['b'], .mappingEnd] := by
  decide +kernel
example : ofText? "\x7ba\x7d".toList = some [.flowStart, .scalar .plain ['a'], .flowEnd] := by
  decide +kernel

end Token

end PowerDisasm.Yaml
