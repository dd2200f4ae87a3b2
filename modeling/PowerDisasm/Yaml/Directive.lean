import PowerDisasm.Yaml.Tag

/-! # Directives

The lines above a document that say how it is to be read: the version of the
notation, and the handles that stand for the first parts of tags. -/

namespace PowerDisasm.Yaml

inductive Directive where
  | version (major minor : Nat)
  | meaning (handle : List Char) (bytes : List UInt8)
deriving DecidableEq

namespace Directive

/-- A number with at most nine digits, and what is left behind it. -/
def takeNumber? (text : List Char) : Option (Nat × List Char) :=
  let digits := text.takeWhile Char.isDigit
  if digits.isEmpty || 9 < digits.length then none
  else
    (Number.readDigits 10 0 digits).toOption.map fun number =>
      (number, text.dropWhile Char.isDigit)

def takeVersion? (text : List Char) : Option (Directive × List Char) := do
  match ← takeNumber? text with
  | (major, '.' :: rest) =>
      let (minor, left) ← takeNumber? rest
      some (.version major minor, left)
  | _ => none

def takeMeaning? (text : List Char) : Option (Directive × List Char) := do
  let (handle, behind) ← match takeHandle? text, text with
    | some taken, _ => some taken
    | none, '!' :: rest => some (['!'], rest)
    | none, _ => none
  let (bytes, left) ← takeSomeTagBytes? true (behind.dropWhile isGap)
  if atGap behind && atGap left then some (.meaning handle bytes, left) else none

def ofLine? : List Char → Option Directive
  | '%' :: rest => do
      let behind := rest.dropWhile isWord
      let content := behind.dropWhile isGap
      let (directive, left) ← match String.ofList (rest.takeWhile isWord) with
        | "YAML" => takeVersion? content
        | "TAG" => takeMeaning? content
        | _ => none
      if atGap behind && atEnd left then some directive else none
  | _ => none

example : ofLine? "%YAML 1.2 # c".toList = some (.version 1 2) := by decide +kernel
example : ofLine? "%TAG !a! b".toList = some (.meaning "!a!".toList [0x62]) := by decide +kernel

/-! ## Several directives -/

def isKnown : Directive → Bool
  | .version major minor => major = 1 && (minor = 1 || minor = 2)
  | .meaning _ _ => true

def handle? : Directive → Option (List Char)
  | .version _ _ => none
  | .meaning handle _ => some handle

/-- Whether the directives may stand above one document: one known version at
most, and one meaning at most for a handle. -/
def agree (directives : List Directive) : Bool :=
  directives.all isKnown && (directives.filter (·.handle?.isNone)).length ≤ 1 &&
    decide (directives.filterMap handle?).Nodup

def standard : List Directive :=
  [.meaning ['!'] Tag.nonSpecific.bytes,
    .meaning ['!', '!'] (Tag.ofString "tag:yaml.org,2002:").bytes]

def meaning? (directives : List Directive) (given : List Char) : Option (List UInt8) :=
  (directives ++ standard).findSome? fun directive =>
    match directive with
    | .meaning handle bytes => if handle = given then some bytes else none
    | .version _ _ => none

def tag? (directives : List Directive) (written : WrittenTag) : Option Tag :=
  if written.handle.isEmpty then some ⟨written.bytes⟩
  else (meaning? directives written.handle).map fun lead => ⟨lead ++ written.bytes⟩

end Directive

end PowerDisasm.Yaml
