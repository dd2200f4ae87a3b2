import PowerDisasm.Text.Numeral

/-! # Addresses

A byte address of the image being decoded. The address space has 64 bits and
wraps around. -/

namespace PowerDisasm

structure Address where
  bits : BitVec 64
deriving DecidableEq

namespace Address

def ofNat (value : Nat) : Address := ⟨BitVec.ofNat 64 value⟩

def toNat (address : Address) : Nat := address.bits.toNat

instance : Inhabited Address := ⟨ofNat 0⟩

/-- The address a signed distance away, around the end of the address space
where it lies beyond. -/
def offset (address : Address) (distance : Int) : Address :=
  ⟨address.bits + BitVec.ofInt 64 distance⟩

def text (address : Address) : String :=
  Numeral.upperHex 8 address.toNat

def markedText (address : Address) : String :=
  "0x" ++ address.text

example : (ofNat 0x100).offset (-4) = ofNat 0xFC := by decide
example : (ofNat 0xFFFFFFFFFFFFFFFC).offset 8 = ofNat 4 := by decide
example : (ofNat 0x1E10).text = "00001E10" := by decide

end Address

end PowerDisasm
