import PowerDisasm.Model
import PowerDisasm.Settings
import PowerDisasm.Text.Number

/-! # Arguments of a command

A word of a command line is a flag, the value of the flag in front of it, or a
value of its own. A flag is named by two hyphens and its long name, or by one
hyphen and its letter; its value may follow in the same word, behind an equals
sign or, for a letter, at once. Two hyphens alone end the flags. -/

namespace PowerDisasm

inductive Flag where
  | config
  | model
  | order
  | base
  | offset
  | length
deriving DecidableEq

namespace Flag

def all : List Flag := [.config, .model, .order, .base, .offset, .length]

def longName : Flag → String
  | .config => "config"
  | .model => "model"
  | .order => "endian"
  | .base => "base"
  | .offset => "offset"
  | .length => "length"

def letter? : Flag → Option Char
  | .config => some 'c'
  | .model => some 'm'
  | .order => some 'e'
  | .base => some 'b'
  | .offset => none
  | .length => some 'l'

end Flag

inductive ArgumentWord where
  | text
  | option (flag : Flag) (value : Option String)
  /-- It has the form of a flag but names none. -/
  | unknown
deriving DecidableEq

namespace ArgumentWord

def assigned : List Char → Option String
  | [] => none
  | _ :: value => some (String.ofList value)

def attached : List Char → Option String
  | [] => none
  | '=' :: value => some (String.ofList value)
  | value => some (String.ofList value)

def ofFlag? (value : Option String) : Option Flag → ArgumentWord
  | some flag => .option flag value
  | none => .unknown

def ofWord (flags : List Flag) (word : String) : ArgumentWord :=
  match word.toList with
  | '-' :: '-' :: rest =>
      let (name, behind) := rest.span (· ≠ '=')
      ofFlag? (assigned behind) (flags.find? fun flag => flag.longName.toList = name)
  | '-' :: letter :: rest =>
      ofFlag? (attached rest) (flags.find? fun flag => flag.letter? = some letter)
  | _ => .text

example : ofWord Flag.all "--base=0x10" = .option .base (some "0x10") := by decide
example : ofWord Flag.all "-mxenon" = .option .model (some "xenon") := by decide
example : ofWord Flag.all "-" = .text := by decide

end ArgumentWord

inductive Argument where
  | positional (text : String)
  | option (flag : Flag) (value : String)
deriving DecidableEq

namespace Argument

def ofWords? (flags : List Flag) : List String → Option (List Argument)
  | [] => some []
  | word :: rest =>
      if word = "--" then
        some (rest.map .positional)
      else
        match ArgumentWord.ofWord flags word with
        | .unknown => none
        | .text => (ofWords? flags rest).map (.positional word :: ·)
        | .option flag (some value) => (ofWords? flags rest).map (.option flag value :: ·)
        | .option flag none =>
            match rest with
            | [] => none
            | value :: behind =>
                if ArgumentWord.ofWord flags value = .text then
                  (ofWords? flags behind).map (.option flag value :: ·)
                else
                  none

def positionals (arguments : List Argument) : List String :=
  arguments.filterMap fun argument =>
    match argument with
    | .positional text => some text
    | .option _ _ => none

def valuesOf (flag : Flag) (arguments : List Argument) : List String :=
  arguments.filterMap fun argument =>
    match argument with
    | .positional _ => none
    | .option other value => if other = flag then some value else none

/-- What a flag gives, if it is there at all. It may be there once, with a value
that can be read. -/
def given? {α : Type} (read : String → Option α) (flag : Flag) (arguments : List Argument) :
    Option (Option α) :=
  match valuesOf flag arguments with
  | [] => some none
  | [value] => (read value).map some
  | _ => none

/-! ## Kinds of values -/

def path? (text : String) : Option String :=
  if text.isEmpty then none else some text

def model? (text : String) : Option Model :=
  (Model.parse text).toOption

def order? (text : String) : Option ByteOrder :=
  (ByteOrder.parse text).toOption

def number? (text : String) : Option Nat :=
  (Number.parse text).toOption

end Argument

end PowerDisasm
