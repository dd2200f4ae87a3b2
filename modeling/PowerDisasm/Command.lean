import PowerDisasm.Command.Arguments
import PowerDisasm.Report.Coverage
import PowerDisasm.Report.Summary
import PowerDisasm.Settings.File

/-! # Commands

What can be asked for on a command line, and what is answered. Files are read by
a function that the caller provides. -/

namespace PowerDisasm

structure CodeRequest where
  path : String
  /-- The file that holds settings below those of the command line. -/
  config : Option String
  layer : SettingsLayer
deriving DecidableEq

inductive Command where
  | list (request : CodeRequest)
  | cover (request : CodeRequest)
  | summarize (model : Model)
deriving DecidableEq

inductive Outcome where
  | printed (lines : List String)
  | failed (message : String)
  | misused
deriving DecidableEq

/-! ## Reading a command line -/

namespace CodeRequest

def ofArguments? (arguments : List Argument) : Option CodeRequest := do
  let config ← Argument.given? Argument.path? .config arguments
  let model ← Argument.given? Argument.model? .model arguments
  let order ← Argument.given? Argument.order? .order arguments
  let base ← Argument.given? Argument.number? .base arguments
  let offset ← Argument.given? Argument.number? .offset arguments
  let length ← Argument.given? Argument.number? .length arguments
  match Argument.positionals arguments with
  | [text] =>
      let path ← Argument.path? text
      some ⟨path, config, ⟨model, order, base.map Address.ofNat, offset, length⟩⟩
  | _ => none

def ofWords? (words : List String) : Option CodeRequest :=
  (Argument.ofWords? Flag.all words).bind ofArguments?

end CodeRequest

namespace Command

def summarizedModel? (words : List String) : Option Model := do
  let arguments ← Argument.ofWords? [.model] words
  let model ← Argument.given? Argument.model? .model arguments
  if (Argument.positionals arguments).isEmpty then some (model.getD .ppc32) else none

def ofWords? : List String → Option Command
  | [] => none
  | name :: words =>
      match name with
      | "disasm" => (CodeRequest.ofWords? words).map .list
      | "coverage" => (CodeRequest.ofWords? words).map .cover
      | "info" => (summarizedModel? words).map .summarize
      | _ => none

end Command

/-! ## Answering it -/

namespace Outcome

def ofFault (message : String) : Outcome :=
  .failed ("Error: " ++ message)

end Outcome

namespace CodeRequest

variable {m : Type → Type} [Monad m]

def settings (readFile : String → m (Except FileFault ByteArray)) (request : CodeRequest) :
    m (Except SettingsFault Settings) :=
  match request.config with
  | none => pure (.ok request.layer.resolve)
  | some path => do
      match SettingsLayer.ofFile path (← readFile path) with
      | .error fault => pure (.error fault)
      | .ok lower => pure (.ok (request.layer.above lower).resolve)

def answer (readFile : String → m (Except FileFault ByteArray))
    (report : Settings → Image → List String) (request : CodeRequest) : m Outcome := do
  match ← request.settings readFile with
  | .error fault => pure (.ofFault fault.message)
  | .ok settings =>
      match settings.select request.path (← readFile request.path) with
      | .error fault => pure (.ofFault fault.message)
      | .ok image => pure (.printed (report settings image))

end CodeRequest

namespace Command

variable {m : Type → Type} [Monad m]

def answer (readFile : String → m (Except FileFault ByteArray)) : Command → m Outcome
  | .list request =>
      request.answer readFile fun settings image =>
        Listing.lines request.path settings.model settings.order image
  | .cover request =>
      request.answer readFile fun settings image =>
        (Coverage.ofImage settings.model settings.order image).lines
  | .summarize model => pure (.printed (Summary.lines model))

def run (readFile : String → m (Except FileFault ByteArray)) (words : List String) :
    m Outcome :=
  match ofWords? words with
  | none => pure .misused
  | some command => command.answer readFile

end Command

end PowerDisasm
