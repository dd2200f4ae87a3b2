import PowerDisasm.Processor.Statistics
import PowerDisasm.Register.Catalog

/-! # Summaries of a model

What registers a model has and how much of the space of words its instruction
tree covers. -/

namespace PowerDisasm.Summary

/-- A part of a whole in percent, to the nearest hundredth. -/
def percent (part whole : Nat) : String :=
  let hundredths := (2 * 10000 * part + whole) / (2 * whole)
  Numeral.decimal (hundredths / 100) ++ "." ++
    Numeral.fill 2 (Nat.toDigits 10 (hundredths % 100)) ++ "%"

example : percent 1 8 = "12.50%" := by decide
example : percent 2 3 = "66.67%" := by decide

def registersText (registers : RegisterCatalog) : String :=
  Numeral.decimal RegisterCatalog.generalCount ++ " GPR, " ++
    Numeral.decimal RegisterCatalog.floatingCount ++ " FPR, " ++
    Numeral.decimal registers.vectorCount ++ " VR, " ++
    Numeral.decimal RegisterCatalog.conditionCount ++ " CR fields, " ++
    Numeral.decimal registers.specialCount ++ " named SPR"

def lines (model : Model) : List String :=
  let statistics := model.statistics
  ["=== PowerPC Decoder Info ===",
    "Model:            " ++ model.name,
    "Word width:       " ++ Numeral.decimal model.wordWidth.bits ++ " bits",
    "VMX128:           " ++ (if model.hasVector128 then "yes" else "no"),
    "Registers:        " ++ registersText (.ofModel model),
    "Instructions:     " ++ Numeral.decimal statistics.instructions ++ " (" ++
      Numeral.decimal statistics.mnemonics ++ " mnemonics)",
    "Not implemented:  " ++ Numeral.decimal statistics.unsupported,
    "Unreachable:      " ++ Numeral.decimal statistics.shadowed,
    "Illegal words:    " ++ Numeral.decimal statistics.unmappedWords ++ " (" ++
      percent statistics.unmappedWords (1 <<< 32) ++ ")"]

end PowerDisasm.Summary
