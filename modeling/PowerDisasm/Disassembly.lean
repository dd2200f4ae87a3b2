import PowerDisasm.Diagnostic.Collector
import PowerDisasm.Processor
import PowerDisasm.WordReader

/-! # Disassembly of a run of bytes

A disassembly reads words and decodes each at its address. Every word gives one
record; what there is to say about it is collected on the way. -/

namespace PowerDisasm

structure Disassembly where
  model : Model
  reader : WordReader
  state : DecodeState
  collector : Collector

namespace Disassembly

def ofReader (model : Model) (reader : WordReader) : Disassembly :=
  ⟨model, reader, .initial model reader.order, .empty⟩

def remaining (disassembly : Disassembly) : Nat :=
  disassembly.reader.remaining / 4

def next? (disassembly : Disassembly) : Option (Instruction × Disassembly) :=
  match disassembly.reader.read? with
  | none => none
  | some (word, reader) =>
      let (decoded, state) :=
        disassembly.state.decode disassembly.model.tree word disassembly.reader.address
      some (decoded.instruction, {
        model := disassembly.model
        reader := reader
        state := state
        collector := decoded.diagnostic.elim disassembly.collector disassembly.collector.report })

def takeOnto (records : Array Instruction) :
    Nat → Disassembly → Array Instruction × Disassembly
  | 0, disassembly => (records, disassembly)
  | count + 1, disassembly =>
      match disassembly.next? with
      | some (record, next) => takeOnto (records.push record) count next
      | none => (records, disassembly)

def take (count : Nat) (disassembly : Disassembly) : List Instruction × Disassembly :=
  let (records, last) := takeOnto #[] count disassembly
  (records.toList, last)

def all (disassembly : Disassembly) : List Instruction × Disassembly :=
  take disassembly.remaining disassembly

def read? (disassembly : Disassembly) : Option (Word × Disassembly) :=
  disassembly.reader.read?.map fun (word, reader) => (word, { disassembly with reader := reader })

def seek (disassembly : Disassembly) (address : Address) :
    Except WordReader.OutOfRange Disassembly :=
  match disassembly.reader.seek address with
  | .ok reader => .ok { disassembly with reader := reader }
  | .error outside => .error outside

def takeDiagnostics (disassembly : Disassembly) : List Diagnostic × Disassembly :=
  let (taken, collector) := disassembly.collector.take
  (taken, { disassembly with collector := collector })

end Disassembly

end PowerDisasm
