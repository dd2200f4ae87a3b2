import PowerDisasm.Command
import PowerDisasm.Proofs.ImageWords

/-! # What a listing prints

The settings select bytes of a file that are there, or the command fails. Of the
selected bytes every whole word has one line, which shows its address, the bytes
as they are stored and the text of the record. -/

namespace PowerDisasm

/-! ## The selected bytes -/

/-- So many bytes of a file are selected, all of which it has: a given number of
them, or those behind the offset. -/
inductive Settings.Selects (settings : Settings) (size : Nat) : Nat → Prop where
  | given {length : Nat} (isGiven : settings.length = some length)
      (within : settings.offset + length ≤ size) : Selects settings size length
  | rest (missing : settings.length = none) (within : settings.offset ≤ size) :
      Selects settings size (size - settings.offset)

namespace Settings

variable {settings : Settings} {size length : Nat}

theorem selects_iff :
    settings.Selects size length ↔
      length = settings.selectedLength size ∧ settings.offset + length ≤ size := by
  unfold selectedLength
  constructor
  · intro selects
    cases selects with
    | given isGiven within => exact ⟨by rw [isGiven]; rfl, within⟩
    | rest missing within => exact ⟨by rw [missing]; rfl, by omega⟩
  · rintro ⟨rfl, within⟩
    cases isGiven : settings.length with
    | some length =>
        rw [isGiven] at within
        exact .given isGiven within
    | none =>
        rw [isGiven] at within
        exact .rest isGiven (Nat.le_of_add_right_le within)

/-- Only a given length can reach beyond the end from an offset that does not. -/
theorem selectedLength_of_not_selects (nothing : ¬ ∃ length, settings.Selects size length) :
    settings.selectedLength size = settings.length.getD 0 ∧
      ¬ settings.offset + settings.selectedLength size ≤ size := by
  have beyond : ¬ settings.offset + settings.selectedLength size ≤ size :=
    fun within => nothing ⟨_, selects_iff.mpr ⟨rfl, within⟩⟩
  refine ⟨?_, beyond⟩
  unfold selectedLength at beyond ⊢
  cases isGiven : settings.length with
  | some length => rfl
  | none =>
      rw [isGiven] at beyond
      change ¬ settings.offset + (size - settings.offset) ≤ size at beyond
      change size - settings.offset = 0
      omega

variable {bytes : ByteArray}

theorem select_of_nonempty (settings : Settings) (path : String) (nonempty : bytes.size ≠ 0) :
    settings.select path (.ok bytes) =
      (Image.mk bytes 0 bytes.size settings.base true).slice settings.offset
        (settings.selectedLength bytes.size) := by
  rw [select, Image.ofFile, if_neg nonempty]

def part (settings : Settings) (bytes : ByteArray) (length : Nat) : Image :=
  ⟨bytes, settings.offset, length, settings.base.offset settings.offset, true⟩

theorem select_of_selects (path : String) (nonempty : bytes.size ≠ 0)
    (selects : settings.Selects bytes.size length) :
    settings.select path (.ok bytes) = .ok (settings.part bytes length) := by
  rcases selects_iff.mp selects with ⟨rfl, within⟩
  rw [select_of_nonempty settings path nonempty, Image.slice, if_pos within, Nat.zero_add, part]

theorem select_of_not_selects (path : String) (nonempty : bytes.size ≠ 0)
    (nothing : ¬ ∃ length, settings.Selects bytes.size length) :
    settings.select path (.ok bytes) =
      .error (.outOfBounds settings.offset (settings.length.getD 0) bytes.size) := by
  rcases selectedLength_of_not_selects nothing with ⟨length, beyond⟩
  rw [select_of_nonempty settings path nonempty, Image.slice, if_neg beyond, length]

end Settings

theorem Image.size_bytes {image : Image}
    (inside : image.start + image.length ≤ image.buffer.size) :
    image.bytes.size = image.length := by
  rw [bytes, ByteArray.size_extract, Nat.min_eq_left inside, Nat.add_sub_cancel_left]

theorem Image.get?_bytes {image : Image}
    (inside : image.start + image.length ≤ image.buffer.size) {position : Nat}
    (within : position + 4 ≤ image.length) :
    WordBytes.get? image.bytes position =
      WordBytes.get? image.buffer (image.start + position) := by
  have size := size_bytes inside
  unfold WordBytes.get?
  rw [dif_pos (by omega), dif_pos (by omega)]
  simp only [bytes, ByteArray.getElem_extract, Nat.add_assoc]

/-! ## Lines -/

namespace Listing

def rows (model : Model) (order : ByteOrder) (image : Image) : List String :=
  List.zipWith line image.storedWords (records model order image)

theorem length_rows (model : Model) (order : ByteOrder) (image : Image) :
    (rows model order image).length = image.bytes.size / 4 := by
  rw [rows, records, (image.all_reader model order).1, List.length_zipWith, List.length_map,
    Image.length_storedWords, Image.length_decodedWords, Nat.min_self]

theorem getElem?_rows (model : Model) (order : ByteOrder) (image : Image) {index : Nat}
    (within : index < image.bytes.size / 4) :
    ∃ stored, WordBytes.get? image.bytes (4 * index) = some stored ∧
      (rows model order image)[index]? = some (line stored
        ((Processor.mk model order).decode (order.ofBytes stored)
          (image.base.offset (4 * index : Nat))).instruction) := by
  have isThere : (WordBytes.get? image.bytes (4 * index)).isSome = true :=
    Image.isSome_get?_of_mem_range index (List.mem_range.mpr within)
  rcases Option.isSome_iff_exists.mp isThere with ⟨stored, isStored⟩
  refine ⟨stored, isStored, ?_⟩
  rw [rows, records, (image.all_reader model order).1, List.getElem?_zipWith,
    List.getElem?_map, image.getElem?_storedWords within, image.getElem?_decodedWords _ within,
    Processor.decodeAt?, isStored]
  rfl

theorem getElem?_rows_part (settings : Settings) {bytes : ByteArray} {length index : Nat}
    (inside : settings.offset + length ≤ bytes.size) (bound : index < length / 4) :
    ∃ stored, WordBytes.get? bytes (settings.offset + 4 * index) = some stored ∧
      (∀ byte : Fin 4, bytes[settings.offset + 4 * index + byte]? = some (stored.get byte)) ∧
      let address := Address.ofNat (settings.base.toNat + settings.offset + 4 * index)
      let record := ((Processor.mk settings.model settings.order).decode
        (settings.order.ofBytes stored) address).instruction
      (rows settings.model settings.order (settings.part bytes length))[index]? =
        some (address.text ++ "  " ++ stored.text ++ "  " ++ record.text) := by
  have size : (settings.part bytes length).bytes.size = length := Image.size_bytes inside
  rcases getElem?_rows settings.model settings.order (settings.part bytes length)
    (size.symm ▸ bound) with ⟨stored, isStored, row⟩
  have within : 4 * index + 4 ≤ length := by omega
  rw [Image.get?_bytes inside within] at isStored
  have place : (settings.part bytes length).base.offset (4 * index : Nat) =
      .ofNat (settings.base.toNat + settings.offset + 4 * index) := by
    rw [Settings.part, Address.offset_offset, ← Int.natCast_add, Address.offset_natCast,
      Nat.add_assoc]
  refine ⟨stored, isStored, WordBytes.getElem?_of_get? isStored, ?_⟩
  rw [row, place, line, Processor.decode_address]

end Listing

/-! ## Answers -/

namespace CodeRequest

variable {m : Type → Type} [Monad m] [LawfulMonad m]
  {readFile : String → m (Except FileFault ByteArray)} {request : CodeRequest}
  {settings : Settings} {content : Except FileFault ByteArray}

theorem answer_of_image (report : Settings → Image → List String)
    (settingsRead : request.settings readFile = pure (.ok settings))
    (contentRead : readFile request.path = pure content) {image : Image}
    (selected : settings.select request.path content = .ok image) :
    request.answer readFile report = pure (.printed (report settings image)) := by
  rw [answer, settingsRead, pure_bind]
  dsimp only
  rw [contentRead, pure_bind, selected]

theorem answer_of_fault (report : Settings → Image → List String)
    (settingsRead : request.settings readFile = pure (.ok settings))
    (contentRead : readFile request.path = pure content) {fault : ImageFault}
    (refused : settings.select request.path content = .error fault) :
    request.answer readFile report = pure (.ofFault fault.message) := by
  rw [answer, settingsRead, pure_bind]
  dsimp only
  rw [contentRead, pure_bind, refused]

end CodeRequest

namespace Command

variable {m : Type → Type} [Monad m] [LawfulMonad m]
  {readFile : String → m (Except FileFault ByteArray)} {request : CodeRequest}
  {settings : Settings} {bytes : ByteArray}

/-- A listing of a file that is not empty has a line for each whole word of the
selected bytes, at its address around the end of the address space. Where the
file has fewer bytes than are selected there is no listing. -/
theorem answer_list (settingsRead : request.settings readFile = pure (.ok settings))
    (contentRead : readFile request.path = pure (.ok bytes)) (nonempty : bytes.size ≠ 0) :
    (∀ length, settings.Selects bytes.size length →
      ∃ rows : List String,
        (Command.list request).answer readFile = pure (.printed
          (Listing.header request.path settings.model settings.order :: rows)) ∧
        rows.length = length / 4 ∧
        ∀ index < length / 4, ∃ stored,
          WordBytes.get? bytes (settings.offset + 4 * index) = some stored ∧
          (∀ byte : Fin 4, bytes[settings.offset + 4 * index + byte]? = some (stored.get byte)) ∧
          let address := Address.ofNat (settings.base.toNat + settings.offset + 4 * index)
          let record := ((Processor.mk settings.model settings.order).decode
            (settings.order.ofBytes stored) address).instruction
          rows[index]? = some (address.text ++ "  " ++ stored.text ++ "  " ++ record.text)) ∧
    ((¬ ∃ length, settings.Selects bytes.size length) →
      let fault := ImageFault.outOfBounds settings.offset (settings.length.getD 0) bytes.size
      settings.select request.path (.ok bytes) = .error fault ∧
        (Command.list request).answer readFile = pure (.failed ("Error: " ++ fault.message))) := by
  constructor
  · intro length selects
    have within := (Settings.selects_iff.mp selects).2
    have selected := Settings.select_of_selects request.path nonempty selects
    refine ⟨Listing.rows settings.model settings.order (settings.part bytes length),
      CodeRequest.answer_of_image _ settingsRead contentRead selected, ?_, ?_⟩
    · rw [Listing.length_rows, Image.size_bytes within]
      rfl
    · exact fun index bound => Listing.getElem?_rows_part settings within bound
  · intro nothing fault
    have refused := Settings.select_of_not_selects request.path nonempty nothing
    exact ⟨refused, CodeRequest.answer_of_fault _ settingsRead contentRead refused⟩

/-- Nine bytes from the third on hold two words, at addresses around the end of
the address space; from the fifth on, nine bytes are not there. -/
theorem answer_list_aroundTheEnd :
    let bytes : ByteArray := ⟨#[0xAA, 0xBB, 0x38, 0x60, 0, 1, 0, 0, 0, 0, 0xCC, 0xDD]⟩
    let request (offset : Nat) : CodeRequest :=
      ⟨"code.bin", none, some .xenon, some .big, some (.ofNat 0xFFFFFFFFFFFFFFFA), some offset,
        some 9⟩
    let readFile : String → Id (Except FileFault ByteArray) := fun _ => pure (.ok bytes)
    (∀ offset, (request offset).settings readFile =
      pure (.ok ⟨.xenon, .big, .ofNat 0xFFFFFFFFFFFFFFFA, offset, some 9⟩)) ∧
    bytes.size ≠ 0 ∧
    (∃ rows : List String, (Command.list (request 2)).answer readFile = pure (.printed
        (Listing.header "code.bin" .xenon .big :: rows)) ∧ rows.length = 2) ∧
    (Command.list (request 4)).answer readFile = pure (.failed
      "Error: Range 0x4+0x9 out of bounds (image size: 0xc)") := by
  intro bytes request readFile
  have given (offset : Nat) : (request offset).settings readFile =
      pure (.ok ⟨.xenon, .big, .ofNat 0xFFFFFFFFFFFFFFFA, offset, some 9⟩) := rfl
  have nonempty : bytes.size ≠ 0 := by decide
  rcases (answer_list (given 2) rfl nonempty).1 9 (.given rfl (by decide)) with
    ⟨rows, printed, count, _⟩
  have nothing : ¬ ∃ length, Settings.Selects
      ⟨.xenon, .big, .ofNat 0xFFFFFFFFFFFFFFFA, 4, some 9⟩ bytes.size length := by
    rintro ⟨length, selects⟩
    rcases Settings.selects_iff.mp selects with ⟨rfl, within⟩
    exact absurd within (show ¬ 4 + 9 ≤ 12 by decide)
  have message : "Error: " ++ (ImageFault.outOfBounds 4 9 12).message =
      "Error: Range 0x4+0x9 out of bounds (image size: 0xc)" := by decide
  refine ⟨given, nonempty, ⟨rows, printed, count⟩, ?_⟩
  rw [← message]
  exact ((answer_list (given 4) rfl nonempty).2 nothing).2

end Command

end PowerDisasm
