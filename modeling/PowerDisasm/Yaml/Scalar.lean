import PowerDisasm.Yaml.Tag

/-! # Scalars

A scalar is a text. What it means depends on how it was written, and on its tag. -/

namespace PowerDisasm.Yaml

inductive Style where
  | plain
  | quoted
  | literal
  | folded
deriving DecidableEq

structure Scalar where
  style : Style
  tag : Option Tag
  text : List Char
deriving DecidableEq

namespace Scalar

def empty : Scalar := ⟨.plain, none, []⟩

def isNullText (text : List Char) : Bool :=
  [['~'], "null".toList, "Null".toList, "NULL".toList].contains text

def isVoid (scalar : Scalar) : Bool :=
  scalar.style = .plain && (scalar.text.isEmpty || isNullText scalar.text)

end Scalar

end PowerDisasm.Yaml
