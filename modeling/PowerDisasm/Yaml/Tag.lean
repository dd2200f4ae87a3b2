import PowerDisasm.Text.Number
import PowerDisasm.Yaml.Cursor

/-! # Tags

A tag names the kind of a value. It is written in full between angle brackets, or
behind a handle that stands for its first part. -/

namespace PowerDisasm.Yaml

structure Tag where
  bytes : List UInt8
deriving DecidableEq

namespace Tag

def ofString (text : String) : Tag :=
  ⟨text.toUTF8.data.toList⟩

def null : Tag := ofString "tag:yaml.org,2002:null"

def int : Tag := ofString "tag:yaml.org,2002:int"

/-- The mark alone, which says that a value has no tag. -/
def nonSpecific : Tag := ofString "!"

/-- What a tag names behind its mark, if it is a tag of the document itself. -/
def localName? (tag : Tag) : Option String :=
  match tag.bytes with
  | [] => none
  | mark :: name =>
      if mark = 0x21 then String.fromUTF8? ⟨(if name.isEmpty then [mark] else name).toArray⟩
      else none

end Tag

/-! ## Bytes of a tag -/

/-- The characters that stand for themselves. Some do so between brackets only. -/
def isTagCharacter (bracketed : Bool) (character : Char) : Bool :=
  isWord character || ";/?:@&=+$.!~*'()".toList.contains character ||
    (bracketed && ",[]".toList.contains character)

def bytesToFollow? (byte : UInt8) : Option Nat :=
  if byte < 0x80 then some 0
  else if byte &&& 0xE0 = 0xC0 then some 1
  else if byte &&& 0xF0 = 0xE0 then some 2
  else if byte &&& 0xF8 = 0xF0 then some 3
  else none

/-- How many bytes have to follow this one if `pending` bytes, at least one or
none, had to follow the byte before it. -/
def bytesPending? (pending : Nat) (byte : UInt8) : Option Nat :=
  match pending with
  | 0 => bytesToFollow? byte
  | more + 1 => if byte &&& 0xC0 = 0x80 then some more else none

/-- The bytes that come next, and what is left behind them. A byte may be written
as a percent sign and two digits, and then so are all bytes of its character. -/
def takeTagBytes? (bracketed : Bool) (pending : Nat) :
    List Char → Option (List UInt8 × List Char)
  | '%' :: high :: low :: rest => do
      let byte ← (Number.readDigits 16 0 [high, low]).toOption
      let pending ← bytesPending? pending (.ofNat byte)
      let (bytes, left) ← takeTagBytes? bracketed pending rest
      some (.ofNat byte :: bytes, left)
  | character :: rest =>
      if pending ≠ 0 || character = '%' then none
      else if isTagCharacter bracketed character then do
        let (bytes, left) ← takeTagBytes? bracketed 0 rest
        some (.ofNat character.toNat :: bytes, left)
      else some ([], character :: rest)
  | [] => if pending = 0 then some ([], []) else none

def takeSomeTagBytes? (bracketed : Bool) (text : List Char) :
    Option (List UInt8 × List Char) :=
  match takeTagBytes? bracketed 0 text with
  | some ([], _) => none
  | taken => taken

/-! ## Written tags -/

/-- A tag as it is written. A tag in full has an empty handle. -/
structure WrittenTag where
  handle : List Char
  bytes : List UInt8
deriving DecidableEq

def takeHandle? : List Char → Option (List Char × List Char)
  | '!' :: rest =>
      match rest.dropWhile isWord with
      | '!' :: left => some ('!' :: rest.takeWhile isWord ++ ['!'], left)
      | _ => none
  | _ => none

namespace WrittenTag

def take? (text : List Char) : Option (WrittenTag × List Char) := do
  match text with
  | '!' :: '<' :: rest =>
      match ← takeSomeTagBytes? true rest with
      | (bytes, '>' :: left) => some (⟨[], bytes⟩, left)
      | _ => none
  | '!' :: rest =>
      match takeHandle? text with
      | some (handle, behind) =>
          let (bytes, left) ← takeSomeTagBytes? false behind
          some (⟨handle, bytes⟩, left)
      | none =>
          let (bytes, left) ← takeTagBytes? false 0 rest
          if bytes.isEmpty then some (⟨[], Tag.nonSpecific.bytes⟩, left)
          else some (⟨['!'], bytes⟩, left)
  | _ => none

example : (take? "!!int 5".toList).map (·.1.handle) = some "!!".toList := by decide
example : take? "!%7e x".toList = some (⟨['!'], [0x7E]⟩, " x".toList) := by decide

end WrittenTag

end PowerDisasm.Yaml
