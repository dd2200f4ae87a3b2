import PowerDisasm.Text.Numeral

/-! # Faults of construction

Why a field, a table or a register catalog cannot be made from what is given. -/

namespace PowerDisasm

inductive ConstructionFault where
  | fieldOutsideWord
  | fieldExceedsByte (position length : Nat)
  | tooManyEntries (given capacity : Nat)
  | keyTooLarge (key width : Nat)
  | repeatedKey (key : Nat)
  /-- The number of vector registers is no power of two. -/
  | unevenVectorCount
deriving DecidableEq

def ConstructionFault.message : ConstructionFault → String
  | .fieldOutsideWord => "bitfield out of range"
  | .fieldExceedsByte position length =>
      "u(" ++ Numeral.decimal position ++ "," ++ Numeral.decimal length ++
        ") does not fit a byte"
  | .tooManyEntries given capacity =>
      "decoder table has " ++ Numeral.decimal given ++ " entries for a " ++
        Numeral.decimal capacity ++ "-entry key"
  | .keyTooLarge key width =>
      "key 0x" ++ Numeral.hex key ++ " does not fit a " ++ Numeral.decimal width ++
        "-bit decoder key"
  | .repeatedKey key =>
      "duplicate key 0x" ++ Numeral.hex key ++ " in sparse decoder table"
  | .unevenVectorCount => "assertion failed: vector_count.is_power_of_two()"

end PowerDisasm
