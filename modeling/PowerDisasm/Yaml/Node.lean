import PowerDisasm.Yaml.Token

/-! # Nodes

A key or a value: a scalar, perhaps with an anchor and a tag, or the name of an
anchor that stands for the scalar at that anchor. -/

namespace PowerDisasm.Yaml

structure Properties where
  anchor : Option (List Char)
  tag : Option Tag
deriving DecidableEq

namespace Properties

def none : Properties := ⟨.none, .none⟩

def take? (directives : List Directive) : List Token → Option (Properties × List Token)
  | .anchor name :: .tag written :: rest
  | .tag written :: .anchor name :: rest =>
      (Directive.tag? directives written).map fun tag => (⟨some name, some tag⟩, rest)
  | .tag written :: rest =>
      (Directive.tag? directives written).map fun tag => (⟨.none, some tag⟩, rest)
  | .anchor name :: rest => some (⟨some name, .none⟩, rest)
  | rest => some (none, rest)

end Properties

inductive Node where
  | alias (name : List Char)
  | scalar (anchor : Option (List Char)) (scalar : Scalar)
deriving DecidableEq

namespace Node

/-- The node that some tokens make up. No token is needed for an empty one. -/
def ofTokens? (directives : List Directive) : List Token → Option Node
  | [.alias name] => some (.alias name)
  | tokens => do
      let (properties, content) ← Properties.take? directives tokens
      match content with
      | [] => some (.scalar properties.anchor ⟨.plain, properties.tag, []⟩)
      | [.scalar style text] =>
          let tag := properties.tag.filter (· ≠ .nonSpecific)
          some (.scalar properties.anchor ⟨style, tag, text⟩)
      | _ => none

example : ofTokens? [] [.anchor ['a'], .scalar .plain ['b']] =
    some (.scalar (some ['a']) ⟨.plain, none, ['b']⟩) := by decide

end Node

structure Entry where
  key : Node
  value : Node
deriving DecidableEq

namespace Entry

/-- The entry behind the mark of a key. A colon may stand between key and value. -/
def ofTokens? (directives : List Directive) (tokens : List Token) : Option Entry := do
  let key ← Node.ofTokens? directives (tokens.takeWhile (· ≠ .value))
  let value ← Node.ofTokens? directives ((tokens.dropWhile (· ≠ .value)).drop 1)
  some ⟨key, value⟩

/-- The entry between two commas. Without a mark it is a key alone. -/
def ofFlow? (directives : List Directive) : List Token → Option Entry
  | [] => none
  | .key :: tokens => ofTokens? directives tokens
  | tokens => do
      let key ← Node.ofTokens? directives tokens
      some ⟨key, .scalar none .empty⟩

end Entry

end PowerDisasm.Yaml
