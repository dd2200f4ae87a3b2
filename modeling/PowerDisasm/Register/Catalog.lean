import PowerDisasm.Bits.Field
import PowerDisasm.Model
import PowerDisasm.Register
import PowerDisasm.Register.SpecialNames

/-! # Register catalogs

The registers of one processor model. A lookup takes bits as they stand in an
encoding word and uses as many of them as the register file has numbers for,
so it always finds a register of the model. -/

namespace PowerDisasm

structure RegisterCatalog where
  vectorBits : Nat
  specials : SpecialNames
deriving DecidableEq

namespace RegisterCatalog

def ofModel (model : Model) : RegisterCatalog where
  vectorBits := model.vectorBits
  specials := SpecialNames.shared.insertAll model.extraSpecials

def ofVectorCount (count : Nat) : Except ConstructionFault RegisterCatalog :=
  if 1 <<< count.log2 = count then
    .ok ⟨count.log2, SpecialNames.shared⟩
  else
    .error .unevenVectorCount

example : ofVectorCount 0 = .error .unevenVectorCount := rfl
example : ofVectorCount 48 = .error .unevenVectorCount := rfl

def withSpecials (catalog : RegisterCatalog) (added : List (Nat × String)) :
    RegisterCatalog :=
  { catalog with specials := catalog.specials.insertAll added }

def generalCount : Nat := 32

def floatingCount : Nat := 32

def conditionCount : Nat := 8

def vectorCount (catalog : RegisterCatalog) : Nat := 1 <<< catalog.vectorBits

def specialCount (catalog : RegisterCatalog) : Nat := catalog.specials.size

def general (bits : Word) : Register := .general (bits.toNat % generalCount)

def floating (bits : Word) : Register := .floating (bits.toNat % floatingCount)

def condition (bits : Word) : Register := .condition (bits.toNat % conditionCount)

def vector (catalog : RegisterCatalog) (bits : Word) : Register :=
  .vector (bits.toNat % catalog.vectorCount)

def special? (catalog : RegisterCatalog) (number : Nat) : Option Register :=
  match catalog.specials.name? number with
  | some name => some (.special number (some name))
  | none => none

example : (ofModel .ppc32).vector 0x7F = .vector 31 := by decide
example : (ofModel .xenon).vector 0x7F = .vector 127 := by decide
example : (ofModel .xenon).special? 1012 = some (.special 1012 (some "hid4")) := by decide

end RegisterCatalog

end PowerDisasm
