import PowerDisasm.Report.Listing
import PowerDisasm.Text.NumberLike

/-! # Coverage reports

How many words of an image stand for an instruction, and the diagnostics of the
others by kind and message. -/

namespace PowerDisasm

structure Coverage where
  model : Model
  order : ByteOrder
  words : Nat
  illegal : Nat
  groups : List DiagnosticGroup
deriving DecidableEq

namespace Coverage

def ofImage (model : Model) (order : ByteOrder) (image : Image) : Coverage :=
  let (records, last) := (Disassembly.ofReader model (image.reader order)).all
  { model := model
    order := order
    words := records.length
    illegal := records.countP fun record => !record.isValid
    groups := last.collector.summary }

/-! ## Text -/

/-- A text in quotation marks if it reads as a number without them. -/
def scalar (text : String) : String :=
  if NumberLike.test text.toList then "'" ++ text ++ "'" else text

def groupLines (group : DiagnosticGroup) : List String := [
  "- decoder: " ++ group.sample.decoder,
  "  kind: " ++ group.sample.kind.name,
  "  message: " ++ group.sample.message,
  "  count: " ++ Numeral.decimal group.count,
  "  first_address: " ++ scalar group.sample.address.text,
  "  sample_bytes: " ++ group.sample.bytes.text]

def groupsLines : List DiagnosticGroup → List String
  | [] => ["diagnostics: []"]
  | groups => "diagnostics:" :: groups.flatMap groupLines

def lines (coverage : Coverage) : List String :=
  ["model: " ++ coverage.model.name,
    "endianness: " ++ coverage.order.name,
    "words: " ++ Numeral.decimal coverage.words,
    "illegal: " ++ Numeral.decimal coverage.illegal] ++
    groupsLines coverage.groups

end Coverage

end PowerDisasm
