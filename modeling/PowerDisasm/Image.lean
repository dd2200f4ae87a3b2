import PowerDisasm.FileFault
import PowerDisasm.Text.Record
import PowerDisasm.WordReader

/-! # Images

An image is a run of bytes that lies at a base address. It is a window into a
buffer, so that a part of an image shares the buffer of the whole; the bytes of
a part keep the addresses that they have in the whole. -/

namespace PowerDisasm

structure Image where
  buffer : ByteArray
  /-- The place of the first byte in the buffer. -/
  start : Nat
  length : Nat
  base : Address
  /-- Whether the buffer holds the content of a file. -/
  mapped : Bool

inductive ImageFault where
  | file (path : String) (fault : FileFault)
  | empty (path : String)
  | outOfBounds (offset length size : Nat)
  | addressOutside (address : Address)
  | reader (outside : WordReader.OutOfRange)
deriving DecidableEq

namespace ImageFault

def message : ImageFault → String
  | .file path fault => fault.describe path
  | .empty path => "Empty image: " ++ path
  | .outOfBounds offset length size =>
      "Range 0x" ++ Numeral.hex offset ++ "+0x" ++ Numeral.hex length ++
        " out of bounds (image size: 0x" ++ Numeral.hex size ++ ")"
  | .addressOutside address => "Address " ++ address.text ++ " is not inside the image"
  | .reader outside => outside.message

end ImageFault

namespace Image

def ofBytes (bytes : ByteArray) (base : Address) : Image :=
  ⟨bytes, 0, bytes.size, base, false⟩

/-- The image of the content that a file turned out to have. The content stays
where it is in memory. An empty file has no image. -/
def ofFile (path : String) (content : Except FileFault ByteArray) (base : Address) :
    Except ImageFault Image :=
  match content with
  | .error fault => .error (.file path fault.ofMapping)
  | .ok bytes =>
      if bytes.size = 0 then .error (.empty path)
      else .ok ⟨bytes, 0, bytes.size, base, true⟩

def bytes (image : Image) : ByteArray :=
  image.buffer.extract image.start (image.start + image.length)

def endAddress (image : Image) : Address :=
  image.base.offset image.length

/-! ## Places -/

def offsetOf (image : Image) (address : Address) : Except ImageFault Nat :=
  if image.base.toNat ≤ address.toNat ∧ address.toNat - image.base.toNat < image.length then
    .ok (address.toNat - image.base.toNat)
  else
    .error (.addressOutside address)

def slice (image : Image) (offset length : Nat) : Except ImageFault Image :=
  if offset + length ≤ image.length then
    .ok { image with
      start := image.start + offset
      length := length
      base := image.base.offset offset }
  else
    .error (.outOfBounds offset length image.length)

def storedWords (image : Image) : List WordBytes :=
  let bytes := image.bytes
  (List.range (bytes.size / 4)).filterMap fun index => WordBytes.get? bytes (4 * index)

/-! ## Readers -/

def reader (image : Image) (order : ByteOrder) : WordReader :=
  .ofBytes image.bytes image.base order

def readerAt (image : Image) (address : Address) (order : ByteOrder) :
    Except ImageFault WordReader :=
  match (image.reader order).seek address with
  | .ok reader => .ok reader
  | .error outside => .error (.reader outside)

def describe (image : Image) : String :=
  Record.describe "Image" [
    ("base", "Address(" ++ Numeral.decimal image.base.toNat ++ ")"),
    ("len", Numeral.decimal image.length),
    ("mapped", if image.mapped then "true" else "false")]

example : (ofBytes ⟨#[0x38, 0x60]⟩ (.ofNat 4096)).describe =
    "Image \x7b base: Address(4096), len: 2, mapped: false \x7d" := by decide

end Image

end PowerDisasm
