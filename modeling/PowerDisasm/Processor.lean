import PowerDisasm.DecodeState
import PowerDisasm.Table.Primary

/-! # Processors

A processor model together with the byte order in which its code is stored. -/

namespace PowerDisasm

structure Processor where
  model : Model
  order : ByteOrder
deriving DecidableEq

namespace Processor

def tree (processor : Processor) : DecodeTree InstructionForm :=
  processor.model.tree

def registers (processor : Processor) : RegisterCatalog :=
  .ofModel processor.model

def initialState (processor : Processor) : DecodeState :=
  .initial processor.model processor.order

def decode (processor : Processor) (word : Word) (address : Address) : Decoded :=
  (processor.initialState.decode processor.tree word address).1

def describe (processor : Processor) : String :=
  let model := match processor.model with
    | .ppc32 => "Ppc32"
    | .ppc64 => "Ppc64"
    | .xenon => "Xenon"
  let order := match processor.order with
    | .big => "Big"
    | .little => "Little"
  "PowerPcArchitecture \x7b model: " ++ model ++ ", endianness: " ++ order ++ ", .. \x7d"

end Processor

end PowerDisasm
