import PowerDisasm.Settings
import PowerDisasm.Settings.Value
import PowerDisasm.Yaml.Document

/-! # Settings documents

A settings document is a YAML mapping that gives values by name. No name stands
twice in it, and a document without content gives no values. -/

namespace PowerDisasm

inductive SettingsKey where
  | model
  | order
  | base
  | offset
  | length
deriving DecidableEq

namespace SettingsKey

def all : List SettingsKey := [.model, .order, .base, .offset, .length]

def name : SettingsKey → String
  | .model => "model"
  | .order => "endianness"
  | .base => "base_address"
  | .offset => "offset"
  | .length => "length"

def ofName? (text : List Char) : Option SettingsKey :=
  all.find? fun key => key.name.toList = text

end SettingsKey

structure SettingsEntry where
  key : SettingsKey
  value : Yaml.Scalar
deriving DecidableEq

namespace SettingsEntry

/-- The entry that a key and a value make up. Only the text of the key counts. -/
def ofScalars? (key value : Yaml.Scalar) : Option SettingsEntry :=
  (SettingsKey.ofName? key.text).map fun key => ⟨key, value⟩

def enter? (layer : SettingsLayer) (entry : SettingsEntry) : Option SettingsLayer :=
  match entry.key with
  | .model =>
      (entry.value.optional? (Yaml.Scalar.named? Model.name Model.all)).map fun given =>
        { layer with model := given }
  | .order =>
      (entry.value.optional? (Yaml.Scalar.named? ByteOrder.name ByteOrder.all)).map fun given =>
        { layer with order := given }
  | .base =>
      (entry.value.optional? Yaml.Scalar.number?).map fun given =>
        { layer with base := given.map Address.ofNat }
  | .offset =>
      (entry.value.optional? Yaml.Scalar.number?).map fun given => { layer with offset := given }
  | .length =>
      (entry.value.optional? Yaml.Scalar.number?).map fun given => { layer with length := given }

end SettingsEntry

namespace SettingsDocument

def ofEntries? (entries : List SettingsEntry) : Option SettingsLayer :=
  if (entries.map (·.key)).Nodup then entries.foldlM SettingsEntry.enter? SettingsLayer.empty
  else none

def readContent? (text : List Char) : Option SettingsLayer := do
  let scalars ← Yaml.entries? text
  ofEntries? (← scalars.mapM fun (key, value) => SettingsEntry.ofScalars? key value)

/-- The layer that a document gives, if it is well formed. A blank document is. -/
def parse? (text : String) : Option SettingsLayer :=
  if (Blank.trim text.toList).isEmpty then some .empty else readContent? text.toList

example : readContent? "---\nmodel: xenon\noffset: 0o17\n".toList =
    some { SettingsLayer.empty with model := some .xenon, offset := some 15 } := by
  decide +kernel
example : readContent? "offset: 1\noffset: 2\n".toList = none := by decide +kernel

end SettingsDocument

end PowerDisasm
