import PowerDisasm.Address
import PowerDisasm.ByteOrder

/-! # Reading words

A reader stands at a position in a run of bytes that lies at a base address.
It reads one word after another and can be moved to any address of the run,
its end included. -/

namespace PowerDisasm

structure WordReader where
  bytes : ByteArray
  base : Address
  position : Nat
  order : ByteOrder

namespace WordReader

def ofBytes (bytes : ByteArray) (base : Address) (order : ByteOrder) : WordReader :=
  ⟨bytes, base, 0, order⟩

def address (reader : WordReader) : Address :=
  reader.base.offset reader.position

def remaining (reader : WordReader) : Nat :=
  reader.bytes.size - reader.position

/-! ## Reading -/

def read? (reader : WordReader) : Option (Word × WordReader) :=
  (WordBytes.get? reader.bytes reader.position).map fun stored =>
    (reader.order.ofBytes stored, { reader with position := reader.position + 4 })

def readOnto (words : Array Word) : Nat → WordReader → Array Word × WordReader
  | 0, reader => (words, reader)
  | count + 1, reader =>
      match reader.read? with
      | some (word, next) => readOnto (words.push word) count next
      | none => (words, reader)

def readAll (reader : WordReader) : List Word × WordReader :=
  let (words, last) := readOnto #[] (reader.remaining / 4) reader
  (words.toList, last)

example :
    (ofBytes ⟨#[0x38, 0x60, 0x00, 0x01, 0xAA]⟩ (.ofNat 0x100) .big).readAll.1 = [0x38600001] := by
  decide

/-! ## Moving -/

structure OutOfRange where
  address : Address
  base : Address
  length : Nat
deriving DecidableEq

def OutOfRange.message (outside : OutOfRange) : String :=
  "Address " ++ outside.address.text ++ " outside image " ++ outside.base.text ++
    "..+0x" ++ Numeral.hex outside.length

/-- The reader in front of the byte at an address. The addresses of a run that
crosses the end of the address space are not reached beyond it. -/
def seek (reader : WordReader) (address : Address) : Except OutOfRange WordReader :=
  if reader.base.toNat ≤ address.toNat ∧
      address.toNat - reader.base.toNat ≤ reader.bytes.size then
    .ok { reader with position := address.toNat - reader.base.toNat }
  else
    .error ⟨address, reader.base, reader.bytes.size⟩

example : (OutOfRange.mk (.ofNat 0xFC) (.ofNat 0x100) 10).message =
    "Address 000000FC outside image 00000100..+0xa" := by decide

end WordReader

end PowerDisasm
