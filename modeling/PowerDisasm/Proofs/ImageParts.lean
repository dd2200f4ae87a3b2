import PowerDisasm.Proofs.ListingLines
import PowerDisasm.Proofs.SeekableAddresses

/-! # Parts of images

Taking part after part of an image never copies: every part is a window into
the one buffer, as far behind its start as the offsets add up to. What one more
slice keeps is told here once; from it follows that the bytes of a part have
the addresses that they have in the whole, and that exactly these find them. -/

namespace PowerDisasm

/-! ## Reading from an address -/

theorem ok_of_ite_iff {Fault Result : Type} {condition : Prop} [Decidable condition]
    {given result : Result} {fault : Fault} :
    (if condition then Except.ok given else .error fault) = .ok result ↔
      condition ∧ result = given := by
  split
  next holds => rw [Except.ok.injEq, eq_comm, and_iff_right holds]
  next fails => simp only [reduceCtorEq, fails, false_and]

namespace WordReader

variable {reader next : WordReader}

end WordReader

namespace Image

variable {image part inner : Image} {offset length index : Nat} {address : Address}

/-! ## One slice -/

def cut (image : Image) (offset length : Nat) : Image :=
  { image with
    start := image.start + offset
    length := length
    base := image.base.offset offset }

theorem cut_zero (image : Image) : image.cut 0 image.length = image := by
  have base : image.base.offset 0 = image.base := congrArg Address.mk (BitVec.add_zero _)
  unfold cut
  rw [Nat.cast_zero, base, Nat.add_zero]

theorem cut_cut (image : Image) (offset length innerOffset innerLength : Nat) :
    (image.cut offset length).cut innerOffset innerLength =
      image.cut (offset + innerOffset) innerLength := by
  unfold cut
  rw [Address.offset_offset, Nat.add_assoc, Int.natCast_add]

theorem slice_eq_ok_iff :
    image.slice offset length = .ok inner ↔
      offset + length ≤ image.length ∧ inner = image.cut offset length :=
  ok_of_ite_iff

theorem getElem?_bytes (inside : image.start + image.length ≤ image.buffer.size)
    (bound : index < image.length) : image.bytes[index]? = image.buffer[image.start + index]? := by
  have inPart : index < image.bytes.size := by rwa [size_bytes inside]
  have inBuffer : image.start + index < image.buffer.size := by omega
  rw [getElem?_pos image.bytes index inPart,
    getElem?_pos image.buffer (image.start + index) inBuffer]
  exact congrArg some (ByteArray.getElem_extract inPart)

/-- The images that come from one by taking part after part, each with the sum
of the offsets. -/
inductive HasPart (whole : Image) : Nat → Image → Prop where
  | whole : HasPart whole 0 whole
  | slice {distance offset length : Nat} {part inner : Image}
      (before : HasPart whole distance part) (taken : part.slice offset length = .ok inner) :
      HasPart whole (distance + offset) inner

structure Within (whole : Image) (distance : Nat) (part : Image) : Prop where
  inside : distance + part.length ≤ whole.length
  eq_cut : part = whole.cut distance part.length

theorem Within.slice {whole : Image} {distance : Nat} (within : Within whole distance part)
    (taken : part.slice offset length = .ok inner) :
    Within whole (distance + offset) inner := by
  rcases slice_eq_ok_iff.mp taken with ⟨bound, rfl⟩
  have inside := within.inside
  constructor
  · change distance + offset + length ≤ whole.length
    omega
  · rw [within.eq_cut]
    exact whole.cut_cut _ _ _ _

namespace HasPart

theorem within {whole : Image} {distance : Nat} (hasPart : whole.HasPart distance part) :
    Within whole distance part := by
  induction hasPart with
  | whole => exact ⟨Nat.le_of_eq (Nat.zero_add _), whole.cut_zero.symm⟩
  | slice _ taken within => exact within.slice taken

variable {bytes : ByteArray} {base : Address} {distance : Nat}

theorem buffer_eq (hasPart : (ofBytes bytes base).HasPart distance part) :
    part.buffer = bytes := by
  rw [hasPart.within.eq_cut, cut, ofBytes]

theorem start_eq (hasPart : (ofBytes bytes base).HasPart distance part) :
    part.start = distance := by
  rw [hasPart.within.eq_cut, cut, ofBytes, Nat.zero_add]

theorem base_eq (hasPart : (ofBytes bytes base).HasPart distance part) :
    part.base = base.offset distance := by
  rw [hasPart.within.eq_cut, cut, ofBytes]

theorem inside (hasPart : (ofBytes bytes base).HasPart distance part) :
    part.start + part.length ≤ part.buffer.size := by
  rw [hasPart.start_eq, hasPart.buffer_eq]
  exact hasPart.within.inside

end HasPart

end Image

end PowerDisasm
