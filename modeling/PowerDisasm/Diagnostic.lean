import PowerDisasm.Address
import PowerDisasm.ByteOrder

/-! # Diagnostics

A note on a word that stands for no instruction: why, where, and what the word
is. -/

namespace PowerDisasm

inductive DiagnosticKind where
  | unmapped
  | rejected
  | unsupported
deriving DecidableEq

namespace DiagnosticKind

def text : DiagnosticKind → String
  | .unmapped => "unmapped encoding"
  | .rejected => "mutator failed"
  | .unsupported => "not yet implemented"

def name : DiagnosticKind → String
  | .unmapped => "unmapped_encoding"
  | .rejected => "mutator_failed"
  | .unsupported => "not_yet_implemented"

def rank : DiagnosticKind → Nat
  | .unmapped => 0
  | .rejected => 1
  | .unsupported => 2

def ofName? : String → Option DiagnosticKind
  | "unmapped_encoding" => some .unmapped
  | "mutator_failed" => some .rejected
  | "not_yet_implemented" => some .unsupported
  | _ => none

end DiagnosticKind

structure Diagnostic where
  decoder : String
  kind : DiagnosticKind
  address : Address
  /-- The word as it is stored in the image. -/
  bytes : WordBytes
  message : String
deriving DecidableEq

def Diagnostic.text (diagnostic : Diagnostic) : String :=
  diagnostic.decoder ++ ": " ++ diagnostic.kind.text ++ " at " ++ diagnostic.address.text ++
    ": " ++ diagnostic.message ++ " [" ++ diagnostic.bytes.text ++ "]"

end PowerDisasm
