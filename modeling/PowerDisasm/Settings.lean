import PowerDisasm.Address
import PowerDisasm.ByteOrder
import PowerDisasm.Model

/-! # Settings

How a file of code is to be read. Settings come in layers that each say
something or nothing about a value, and what no layer says has a default. -/

namespace PowerDisasm

structure Settings where
  model : Model
  order : ByteOrder
  base : Address
  offset : Nat
  /-- How many bytes are decoded. Without it, all that follow. -/
  length : Option Nat
deriving DecidableEq

structure SettingsLayer where
  model : Option Model
  order : Option ByteOrder
  base : Option Address
  offset : Option Nat
  length : Option Nat
deriving DecidableEq

namespace SettingsLayer

def empty : SettingsLayer := ⟨none, none, none, none, none⟩

/-- The values of a layer, and those of the one below it where it has none. -/
def above (upper lower : SettingsLayer) : SettingsLayer where
  model := upper.model.or lower.model
  order := upper.order.or lower.order
  base := upper.base.or lower.base
  offset := upper.offset.or lower.offset
  length := upper.length.or lower.length

def resolve (layer : SettingsLayer) : Settings where
  model := layer.model.getD .ppc32
  order := layer.order.getD .big
  base := layer.base.getD (.ofNat 0)
  offset := layer.offset.getD 0
  length := layer.length

end SettingsLayer

end PowerDisasm
