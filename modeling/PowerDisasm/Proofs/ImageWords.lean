import PowerDisasm.Proofs.DiagnosticLog
import PowerDisasm.Proofs.WordByWord
import PowerDisasm.Report.Coverage

/-! # The words of an image

A listing and a coverage report go over all words of an image. What they see is
told here by the stored words alone: each is decoded by itself at its address,
and what is collected in the end are the diagnostics of all of them in order. -/

namespace PowerDisasm

/-! ## Stored words -/

theorem WordBytes.isSome_get?_iff {bytes : ByteArray} {position : Nat} :
    (get? bytes position).isSome = true ↔ position + 4 ≤ bytes.size := by
  rw [Option.isSome_iff_ne_none, ne_eq, get?_eq_none_iff, Nat.not_lt]

section FilterMap

variable {α β : Type} {f : α → Option β} {values : List α}

theorem map_some_filterMap (total : ∀ value ∈ values, (f value).isSome = true) :
    (values.filterMap f).map some = values.map f := by
  rw [List.map_filterMap_some_eq_filter_map_isSome, List.filter_eq_self]
  simpa using total

theorem getElem?_filterMap_of_total (total : ∀ value ∈ values, (f value).isSome = true)
    (index : Nat) : (values.filterMap f)[index]? = values[index]?.bind f := by
  have element := congrArg (·[index]?) (map_some_filterMap total)
  simp only [List.getElem?_map] at element
  cases atIndex : values[index]? <;> cases filtered : (values.filterMap f)[index]? <;>
    rw [atIndex, filtered] at element <;> simp_all

theorem length_filterMap_of_total (total : ∀ value ∈ values, (f value).isSome = true) :
    (values.filterMap f).length = values.length := by
  rw [← List.length_map (f := some), map_some_filterMap total, List.length_map]

end FilterMap

namespace Image

theorem isSome_get?_of_mem_range {bytes : ByteArray} :
    ∀ index ∈ List.range (bytes.size / 4), (WordBytes.get? bytes (4 * index)).isSome = true := by
  intro index member
  have within := List.mem_range.mp member
  exact WordBytes.isSome_get?_iff.mpr (by omega)

theorem length_storedWords (image : Image) : image.storedWords.length = image.bytes.size / 4 := by
  rw [storedWords, length_filterMap_of_total isSome_get?_of_mem_range, List.length_range]

theorem getElem?_storedWords (image : Image) {index : Nat}
    (within : index < image.bytes.size / 4) :
    image.storedWords[index]? = WordBytes.get? image.bytes (4 * index) := by
  rw [storedWords, getElem?_filterMap_of_total isSome_get?_of_mem_range,
    List.getElem?_range within, Option.bind_some]

end Image

/-! ## Decoded words -/

namespace Processor

/-- What the processor makes of the word stored at a position of some bytes, the
first of which lies at the base address. -/
def decodeAt? (processor : Processor) (bytes : ByteArray) (base : Address) (position : Nat) :
    Option Decoded :=
  (WordBytes.get? bytes position).map fun stored =>
    processor.decode (processor.order.ofBytes stored) (base.offset position)

theorem decode_address (processor : Processor) (word : Word) (address : Address) :
    (processor.decode word address).instruction.address = address :=
  DecodeState.decode_address _ _ word address

end Processor

theorem Collector.toList_elim_report (collector : Collector) (diagnostic : Option Diagnostic) :
    (diagnostic.elim collector collector.report).toList =
      collector.toList ++ diagnostic.toList := by
  cases diagnostic with
  | none => exact (List.append_nil _).symm
  | some diagnostic => exact toList_report collector diagnostic

namespace Disassembly

variable {model : Model} {bytes : ByteArray} {base : Address} {order : ByteOrder}
  {now : Disassembly}

def decodedFrom (processor : Processor) (bytes : ByteArray) (base : Address)
    (first count : Nat) : List Decoded :=
  (List.range' first count).filterMap fun index => processor.decodeAt? bytes base (4 * index)

theorem decodedFrom_succ {processor : Processor} {first : Nat} {decoded : Decoded}
    (isDecoded : processor.decodeAt? bytes base (4 * first) = some decoded) (count : Nat) :
    decodedFrom processor bytes base first (count + 1) =
      decoded :: decodedFrom processor bytes base (first + 1) count := by
  rw [decodedFrom, List.range'_succ]
  exact List.filterMap_cons_some isDecoded

namespace Over

theorem exists_decoded (isOver : Over model bytes base order now) {record : Instruction}
    {later : Disassembly} (found : now.next? = some (record, later)) :
    ∃ decoded,
      (Processor.mk model order).decodeAt? bytes base now.reader.position = some decoded ∧
        record = decoded.instruction ∧
        later.collector.toList = now.collector.toList ++ decoded.diagnostic.toList := by
  rcases isOver.exists_stored found with ⟨stored, isStored, rfl, rfl⟩
  refine ⟨(decodeStored model order stored now.reader.address).1, ?_, rfl,
    Collector.toList_elim_report _ _⟩
  rw [Processor.decodeAt?, isStored, isOver.address_eq]
  rfl

theorem takeOnto_eq (isOver : Over model bytes base order now) (records : Array Instruction)
    {first count : Nat} (position : now.reader.position = 4 * first)
    (enough : count ≤ now.remaining) :
    (takeOnto records count now).1.toList = records.toList ++
        (decodedFrom ⟨model, order⟩ bytes base first count).map (·.instruction) ∧
      (takeOnto records count now).2.collector.toList = now.collector.toList ++
        (decodedFrom ⟨model, order⟩ bytes base first count).filterMap (·.diagnostic) := by
  induction count generalizing now records first with
  | zero => exact ⟨(List.append_nil _).symm, (List.append_nil _).symm⟩
  | succ count induction =>
      cases found : now.next? with
      | none =>
          rw [isOver.remaining_of_none found] at enough
          cases enough
      | some result =>
          rcases result with ⟨record, later⟩
          rcases isOver.exists_decoded found with ⟨decoded, isDecoded, rfl, collected⟩
          have laterPosition : later.reader.position = 4 * (first + 1) := by
            rw [isOver.later_position found, position, Nat.mul_succ]
          have laterEnough : count ≤ later.remaining := by
            rw [isOver.remaining_of_next? found] at enough
            exact Nat.le_of_succ_le_succ enough
          rcases induction (isOver.next found) (records.push decoded.instruction) laterPosition
            laterEnough with ⟨recordsEq, diagnosticsEq⟩
          rw [position] at isDecoded
          rw [takeOnto, found, decodedFrom_succ isDecoded]
          dsimp only
          rw [recordsEq, diagnosticsEq, collected, Array.toList_push, List.append_assoc,
            List.append_assoc, List.map_cons]
          refine ⟨rfl, congrArg (now.collector.toList ++ ·) ?_⟩
          cases diagnosed : decoded.diagnostic with
          | none => rw [List.filterMap_cons_none diagnosed]; rfl
          | some diagnostic => rw [List.filterMap_cons_some diagnosed]; rfl

end Over

end Disassembly

namespace Image

/-- The words of an image in order, each decoded by itself. -/
def decodedWords (processor : Processor) (image : Image) : List Decoded :=
  Disassembly.decodedFrom processor image.bytes image.base 0 (image.bytes.size / 4)

theorem isSome_decodeAt?_of_mem_range {processor : Processor} {bytes : ByteArray}
    {base : Address} : ∀ index ∈ List.range' 0 (bytes.size / 4),
      (processor.decodeAt? bytes base (4 * index)).isSome = true := by
  intro index member
  rw [← List.range_eq_range'] at member
  rw [Processor.decodeAt?, Option.isSome_map, isSome_get?_of_mem_range index member]

theorem length_decodedWords (processor : Processor) (image : Image) :
    (image.decodedWords processor).length = image.bytes.size / 4 := by
  rw [decodedWords, Disassembly.decodedFrom,
    length_filterMap_of_total isSome_decodeAt?_of_mem_range, List.length_range']

theorem getElem?_decodedWords (processor : Processor) (image : Image) {index : Nat}
    (within : index < image.bytes.size / 4) :
    (image.decodedWords processor)[index]? =
      processor.decodeAt? image.bytes image.base (4 * index) := by
  rw [decodedWords, Disassembly.decodedFrom,
    getElem?_filterMap_of_total isSome_decodeAt?_of_mem_range, ← List.range_eq_range',
    List.getElem?_range within, Option.bind_some]

/-- A run over an image makes the records of its words and collects their
diagnostics. -/
theorem all_reader (model : Model) (order : ByteOrder) (image : Image) :
    (Disassembly.ofReader model (image.reader order)).all.1 =
        (image.decodedWords ⟨model, order⟩).map (·.instruction) ∧
      (Disassembly.ofReader model (image.reader order)).all.2.collector.toList =
        (image.decodedWords ⟨model, order⟩).filterMap (·.diagnostic) := by
  have isOver := Disassembly.over_ofReader model image.bytes image.base order
  have count : (Disassembly.ofReader model (image.reader order)).remaining =
      image.bytes.size / 4 := isOver.remaining_eq
  have run := isOver.takeOnto_eq #[] (show _ = 4 * 0 from rfl) (Nat.le_refl _)
  rw [← reader, count] at run
  rw [Disassembly.all, count]
  exact run

end Image

end PowerDisasm
