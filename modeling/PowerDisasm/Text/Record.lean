/-! # One-line records

The notation in which a value is described by its type's name and its fields:
`Image \x7b base: 0, len: 8 \x7d` with braces, and lists in square brackets. -/

namespace PowerDisasm.Record

def describe (typeName : String) (fields : List (String × String)) : String :=
  typeName ++ " \x7b " ++
    String.intercalate ", " (fields.map fun field => field.1 ++ ": " ++ field.2) ++
    " \x7d"

def list (items : List String) : String :=
  "[" ++ String.intercalate ", " items ++ "]"

example : describe "Field" [("position", "3"), ("length", "2")] =
    "Field \x7b position: 3, length: 2 \x7d" := by decide

end PowerDisasm.Record
