import PowerDisasm.Yaml.Directive
import PowerDisasm.Yaml.Scalar

/-! # Tokens

The parts of a text that holds one mapping from scalars to scalars, and no
mapping or list inside of it. -/

namespace PowerDisasm.Yaml

inductive Token where
  | directive (directive : Directive)
  | documentStart
  | documentEnd
  | mappingStart
  | mappingEnd
  | flowStart
  | flowEnd
  | flowEntry
  | key
  | value
  | anchor (name : List Char)
  | alias (name : List Char)
  | tag (written : WrittenTag)
  | scalar (style : Style) (text : List Char)
deriving DecidableEq

/-- A place at which a key may have begun. Only a colon behind it tells. -/
structure KeyCandidate where
  /-- Whether anything but a key would be out of place. -/
  required : Bool
  line : Nat
  column : Nat
  tokens : List Token
deriving DecidableEq

namespace KeyCandidate

/-- The greatest number of characters between the begin of a key and its colon. -/
def lengthLimit : Nat := 1024

def isStale (candidate : KeyCandidate) (cursor : Cursor) : Bool :=
  candidate.line < cursor.line || candidate.column + lengthLimit < cursor.column

end KeyCandidate

end PowerDisasm.Yaml
