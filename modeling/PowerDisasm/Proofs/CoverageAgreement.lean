import PowerDisasm.Proofs.DiagnosticGroups
import PowerDisasm.Proofs.ListingLines
import PowerDisasm.Proofs.RecordText

/-! # Coverage reports and listings

A coverage report and a listing of the same code agree: the report counts the
lines of the listing and those among them that show no instruction, and what it
shows of a group of diagnostics stands on the first line of that group. -/

namespace PowerDisasm

/-! ## Columns -/

theorem WordBytes.length_text (stored : WordBytes) : stored.text.toList.length = 11 := by
  have digits (byte : UInt8) : (Numeral.upperHex 2 byte.toNat).toList.length = 2 :=
    Numeral.length_upperHex (by decide) byte.toNat_lt
  rcases stored.exists_elements with ⟨first, second, third, fourth, rfl⟩
  rw [text, String.toList_intercalate]
  simp [List.intercalate, digits]

namespace Listing

structure Columns where
  address : String
  bytes : String
  text : String
deriving DecidableEq

/-- The columns of a line: the address ends at the first blank, the bytes have
eleven characters, and two blanks stand behind each of the two. -/
def columns (line : String) : Columns :=
  let behind := (line.toList.dropWhile (· ≠ ' ')).drop 2
  { address := String.ofList (line.toList.takeWhile (· ≠ ' '))
    bytes := String.ofList (behind.take 11)
    text := String.ofList (behind.drop 13) }

theorem columns_line (stored : WordBytes) (record : Instruction) :
    columns (line stored record) = ⟨record.address.text, stored.text, record.text⟩ := by
  have noBlank : ∀ character ∈ record.address.text.toList, decide (character ≠ ' ') = true := by
    intro character member
    apply decide_eq_true
    rintro rfl
    exact record.address.isAlphanumeric_text.notMem rfl member
  have characters : (line stored record).toList = record.address.text.toList ++
      ' ' :: ' ' :: (stored.text.toList ++ ' ' :: ' ' :: record.text.toList) := by
    simp [line]
  have behind : ((line stored record).toList.dropWhile (· ≠ ' ')).drop 2 =
      stored.text.toList ++ ' ' :: ' ' :: record.text.toList := by
    rw [characters, List.dropWhile_append_of_pos noBlank]
    rfl
  have front : (line stored record).toList.takeWhile (· ≠ ' ') = record.address.text.toList := by
    rw [characters, List.takeWhile_append_of_pos noBlank]
    exact List.append_nil _
  have toText : (stored.text.toList ++ ' ' :: ' ' :: record.text.toList).drop (11 + 2) =
      record.text.toList := by
    rw [← stored.length_text, List.drop_length_add_append]
    rfl
  rw [columns, behind, front, List.take_left' stored.length_text, toText, String.ofList_toList,
    String.ofList_toList, String.ofList_toList]

end Listing

/-! ## Illegal records -/

namespace Processor

theorem decode_shown (processor : Processor) (word : Word) (address : Address) :
    let decoded := processor.decode word address
    (decoded.instruction.isValid = true ∧ decoded.instruction.text ≠ "illegal" ∧
      decoded.diagnostic = none) ∨
    (decoded.instruction.isValid = false ∧ decoded.instruction.text = "illegal" ∧
      ∃ kind message, decoded.diagnostic = some ⟨DecodeState.decoderName, kind, address,
        processor.order.toBytes word, message⟩) := by
  intro decoded
  have unmarked (record : Instruction) :
      (DecodeState.markZero word record).text = record.text := by
    rw [DecodeState.markZero_eq]
    rfl
  rcases DecodeState.decode_cases processor.initialState processor.tree word address with
    ⟨form, contributions, reached, _, outcome⟩ | ⟨kind, message, outcome⟩
  · left
    have isAccepted : decoded =
        ⟨DecodeState.markZero word (DecodeState.acceptedRecord form contributions address),
          none⟩ :=
      congrArg Prod.fst outcome
    have valid := processor.model.tree_forms_valid form (DecodeTree.mem_forms_of_reach reached)
    rw [isAccepted, DecodeState.markZero_isValid, unmarked]
    refine ⟨congrArg not valid, ?_, rfl⟩
    intro (same : _ = (Instruction.illegal address).text)
    exact Model.mnemonic_ne_illegal reached (Instruction.parts_eq_of_text_eq same).1
  · right
    have isRefused : decoded = ⟨DecodeState.markZero word (.illegal address),
        some ⟨DecodeState.decoderName, kind, address, processor.order.toBytes word, message⟩⟩ :=
      congrArg Prod.fst outcome
    rw [isRefused, DecodeState.markZero_isValid, unmarked]
    exact ⟨rfl, rfl, kind, message, rfl⟩

end Processor

/-! ## Rows and words -/

namespace Image

def Reported (processor : Processor) (image : Image) (index : Nat) (kind : DiagnosticKind)
    (message : String) : Prop :=
  ∃ stored diagnostic, WordBytes.get? image.bytes (4 * index) = some stored ∧
    (processor.decode (processor.order.ofBytes stored)
      (image.base.offset (4 * index : Nat))).diagnostic = some diagnostic ∧
    diagnostic.kind = kind ∧ diagnostic.message = message

variable {processor : Processor} {image : Image}

theorem exists_word_of_mem_decodedWords {decoded : Decoded}
    (member : decoded ∈ image.decodedWords processor) :
    ∃ word address, decoded = processor.decode word address := by
  rcases List.mem_filterMap.mp member with ⟨index, _, isDecoded⟩
  rcases Option.map_eq_some_iff.mp isDecoded with ⟨stored, _, rfl⟩
  exact ⟨_, _, rfl⟩

theorem getElem?_decodedWords_eq_some_iff {index : Nat} {decoded : Decoded} :
    (image.decodedWords processor)[index]? = some decoded ↔
      ∃ stored, WordBytes.get? image.bytes (4 * index) = some stored ∧
        processor.decode (processor.order.ofBytes stored)
          (image.base.offset (4 * index : Nat)) = decoded := by
  by_cases within : index < image.bytes.size / 4
  · rw [getElem?_decodedWords processor image within]
    exact Option.map_eq_some_iff
  · have none : WordBytes.get? image.bytes (4 * index) = none :=
      WordBytes.get?_eq_none_iff.mpr (by omega)
    rw [List.getElem?_eq_none (by rw [length_decodedWords]; omega), none]
    simp

theorem reported_iff {index : Nat} {kind : DiagnosticKind} {message : String} :
    image.Reported processor index kind message ↔
      ∃ decoded diagnostic, (image.decodedWords processor)[index]? = some decoded ∧
        decoded.diagnostic = some diagnostic ∧
          diagnostic.kind = kind ∧ diagnostic.message = message := by
  constructor
  · rintro ⟨stored, diagnostic, isStored, reason⟩
    exact ⟨_, diagnostic, getElem?_decodedWords_eq_some_iff.mpr ⟨stored, isStored, rfl⟩, reason⟩
  · rintro ⟨decoded, diagnostic, atIndex, reason⟩
    rcases getElem?_decodedWords_eq_some_iff.mp atIndex with ⟨stored, isStored, rfl⟩
    exact ⟨stored, diagnostic, isStored, reason⟩

end Image

namespace Listing

variable {model : Model} {order : ByteOrder} {image : Image}

theorem map_text_rows :
    (rows model order image).map (fun row => (columns row).text) =
      (image.decodedWords ⟨model, order⟩).map (·.instruction.text) := by
  have lengths : (records model order image).length ≤ image.storedWords.length := by
    rw [records, (image.all_reader model order).1, List.length_map, Image.length_decodedWords,
      Image.length_storedWords]
  rw [rows, List.map_zipWith]
  simp only [columns_line]
  calc
    _ = ((image.storedWords.zip (records model order image)).map Prod.snd).map
          Instruction.text := by
      rw [List.map_map, List.map_zip_eq_zipWith]
      rfl
    _ = (records model order image).map Instruction.text := by rw [List.map_snd_zip lengths]
    _ = _ := by
      rw [records, (image.all_reader model order).1, List.map_map]
      rfl

theorem countP_illegal_rows :
    (rows model order image).countP (fun row => (columns row).text = "illegal") =
      (image.decodedWords ⟨model, order⟩).countP (fun decoded => !decoded.instruction.isValid) := by
  calc
    _ = ((rows model order image).map fun row => (columns row).text).countP (· = "illegal") := by
      rw [List.countP_map]
      rfl
    _ = (image.decodedWords ⟨model, order⟩).countP (·.instruction.text = "illegal") := by
      rw [map_text_rows, List.countP_map]
      rfl
    _ = _ := by
      apply List.countP_congr
      intro decoded member
      rcases Image.exists_word_of_mem_decodedWords member with ⟨word, address, rfl⟩
      rcases Processor.decode_shown ⟨model, order⟩ word address with
        ⟨valid, text, _⟩ | ⟨illegal, text, _⟩
      · simp [valid, text]
      · simp [illegal, text]

end Listing

namespace Coverage

variable {model : Model} {order : ByteOrder} {image : Image}

theorem words_ofImage :
    (ofImage model order image).words = (Listing.rows model order image).length := by
  rw [Listing.length_rows, ← Image.length_decodedWords ⟨model, order⟩, ← List.length_map,
    ← (image.all_reader model order).1]
  rfl

theorem illegal_ofImage :
    (ofImage model order image).illegal =
      (image.decodedWords ⟨model, order⟩).countP (fun decoded => !decoded.instruction.isValid) := by
  change List.countP _ (Disassembly.ofReader model (image.reader order)).all.1 = _
  rw [(image.all_reader model order).1, List.countP_map]
  rfl

theorem summarizes_ofImage :
    DiagnosticGroup.Summarizes ((image.decodedWords ⟨model, order⟩).filterMap (·.diagnostic))
      (ofImage model order image).groups := by
  rw [← (image.all_reader model order).2]
  exact Collector.summarizes_summary _

theorem illegal_eq_sum :
    (ofImage model order image).illegal =
      ((ofImage model order image).groups.map DiagnosticGroup.count).sum := by
  rw [illegal_ofImage, summarizes_ofImage.sum_count, List.length_filterMap_eq_countP]
  apply List.countP_congr
  intro decoded member
  rcases Image.exists_word_of_mem_decodedWords member with ⟨word, address, rfl⟩
  rcases Processor.decode_shown ⟨model, order⟩ word address with
    ⟨valid, _, silent⟩ | ⟨illegal, _, kind, message, reported⟩
  · simp [valid, silent]
  · simp [illegal, reported]

theorem exists_first_row {group : DiagnosticGroup}
    (member : group ∈ (ofImage model order image).groups) :
    ∃ index row, (Listing.rows model order image)[index]? = some row ∧
      Listing.columns row =
        ⟨group.sample.address.text, group.sample.bytes.text, "illegal"⟩ ∧
      image.Reported ⟨model, order⟩ index group.sample.kind group.sample.message ∧
      ∀ earlier < index,
        ¬ image.Reported ⟨model, order⟩ earlier group.sample.kind group.sample.message := by
  have first := summarizes_ofImage.sample_first group member
  rw [List.find?_filterMap] at first
  rcases Option.bind_eq_some_iff.mp first with ⟨decoded, found, diagnosed⟩
  rcases List.find?_eq_some_iff_getElem.mp found with ⟨_, index, bound, isDecoded, earlierRefused⟩
  have atIndex := List.getElem?_eq_some_iff.mpr ⟨bound, isDecoded⟩
  rw [Image.length_decodedWords] at bound
  rcases Listing.getElem?_rows model order image bound with ⟨stored, isStored, atRow⟩
  rcases Image.getElem?_decodedWords_eq_some_iff.mp atIndex with ⟨same, isSame, rfl⟩
  rw [isStored] at isSame
  cases isSame
  refine ⟨index, _, atRow, ?_, Image.reported_iff.mpr ⟨_, _, atIndex, diagnosed, rfl, rfl⟩, ?_⟩
  · rcases Processor.decode_shown ⟨model, order⟩ (order.ofBytes stored)
        (image.base.offset (4 * index : Nat)) with
      ⟨_, _, silent⟩ | ⟨_, text, kind, message, reported⟩
    · rw [silent] at diagnosed
      cases diagnosed
    · rw [reported] at diagnosed
      rw [Listing.columns_line, Processor.decode_address, text, ← Option.some.inj diagnosed,
        ByteOrder.toBytes_ofBytes]
  · intro earlier before isReported
    rcases Image.reported_iff.mp isReported with
      ⟨other, diagnostic, atEarlier, isDiagnosed, alike⟩
    rcases List.getElem?_eq_some_iff.mp atEarlier with ⟨_, isOther⟩
    have refused := earlierRefused earlier before
    rw [isOther, isDiagnosed, Option.any_some, DiagnosticGroup.admits_iff.mpr alike] at refused
    cases refused

/-! ## Printed lines -/

/-- The lines show the report: its counts stand on the third and the fourth, and
from the sixth on every group of diagnostics has six lines of its own. -/
structure ShownBy (coverage : Coverage) (lines : List String) : Prop where
  model_line : lines[0]? = some ("model: " ++ coverage.model.name)
  order_line : lines[1]? = some ("endianness: " ++ coverage.order.name)
  words_line : lines[2]? = some ("words: " ++ Numeral.decimal coverage.words)
  illegal_line : lines[3]? = some ("illegal: " ++ Numeral.decimal coverage.illegal)
  groups_line : lines[4]? =
    some (if coverage.groups = [] then "diagnostics: []" else "diagnostics:")
  /-- An address that reads as a number without quotation marks stands in them. -/
  group_lines : ∀ position group, coverage.groups[position]? = some group →
    let address := group.sample.address.text
    (lines.drop (5 + 6 * position)).take 6 = [
      "- decoder: " ++ group.sample.decoder,
      "  kind: " ++ group.sample.kind.name,
      "  message: " ++ group.sample.message,
      "  count: " ++ Numeral.decimal group.count,
      "  first_address: " ++
        if NumberLike.test address.toList then "'" ++ address ++ "'" else address,
      "  sample_bytes: " ++ group.sample.bytes.text]
  length_eq : lines.length = 5 + 6 * coverage.groups.length

theorem lines_eq (coverage : Coverage) :
    coverage.lines = [
      "model: " ++ coverage.model.name,
      "endianness: " ++ coverage.order.name,
      "words: " ++ Numeral.decimal coverage.words,
      "illegal: " ++ Numeral.decimal coverage.illegal,
      if coverage.groups = [] then "diagnostics: []" else "diagnostics:"] ++
        coverage.groups.flatMap groupLines := by
  rw [lines]
  cases coverage.groups <;> simp [groupsLines]

theorem take_drop_flatMap_groupLines {groups : List DiagnosticGroup} {position : Nat}
    {group : DiagnosticGroup} (found : groups[position]? = some group) :
    ((groups.flatMap groupLines).drop (6 * position)).take 6 = groupLines group := by
  induction groups generalizing position with
  | nil => cases found
  | cons first rest induction =>
      cases position with
      | zero =>
          cases found
          rfl
      | succ position =>
          have behind : 6 * (position + 1) = (groupLines first).length + 6 * position := by
            rw [Nat.mul_succ, Nat.add_comm]
            rfl
          rw [List.flatMap_cons, behind, List.drop_length_add_append]
          exact induction found

theorem shownBy_lines (coverage : Coverage) : coverage.ShownBy coverage.lines where
  model_line := rfl
  order_line := rfl
  words_line := rfl
  illegal_line := rfl
  groups_line := by
    rw [lines_eq]
    rfl
  group_lines position group found := by
    intro address
    rw [lines_eq, ← List.drop_drop]
    exact take_drop_flatMap_groupLines found
  length_eq := by
    have six : ∀ group ∈ coverage.groups, (groupLines group).length = 6 := fun _ _ => rfl
    rw [lines_eq, List.length_append, List.length_flatMap, List.map_congr_left six]
    simp [Nat.add_comm, Nat.mul_comm]

end Coverage

namespace Command

variable {m : Type → Type} [Monad m] [LawfulMonad m]
  {readFile : String → m (Except FileFault ByteArray)} {request : CodeRequest}
  {settings : Settings} {content : Except FileFault ByteArray} {image : Image}

/-- A coverage report of a file, all of which its lines show, agrees with a
listing of it: on the number of words, on how many of them are illegal, and on
where the first word of each group of diagnostics is and what it looks like. -/
theorem cover_agrees_with_list (settingsRead : request.settings readFile = pure (.ok settings))
    (contentRead : readFile request.path = pure content)
    (selected : settings.select request.path content = .ok image) :
    let processor := Processor.mk settings.model settings.order
    let coverage := Coverage.ofImage settings.model settings.order image
    ∃ rows : List String,
      (Command.cover request).answer readFile = pure (.printed coverage.lines) ∧
      coverage.ShownBy coverage.lines ∧
      (Command.list request).answer readFile = pure (.printed
        (Listing.header request.path settings.model settings.order :: rows)) ∧
      coverage.words = rows.length ∧
      coverage.illegal = rows.countP (fun row => (Listing.columns row).text = "illegal") ∧
      coverage.illegal = (coverage.groups.map DiagnosticGroup.count).sum ∧
      ∀ group ∈ coverage.groups, ∃ index row, rows[index]? = some row ∧
        Listing.columns row =
          ⟨group.sample.address.text, group.sample.bytes.text, "illegal"⟩ ∧
        image.Reported processor index group.sample.kind group.sample.message ∧
        ∀ earlier < index,
          ¬ image.Reported processor earlier group.sample.kind group.sample.message := by
  intro processor coverage
  refine ⟨Listing.rows settings.model settings.order image,
    CodeRequest.answer_of_image _ settingsRead contentRead selected, coverage.shownBy_lines,
    CodeRequest.answer_of_image _ settingsRead contentRead selected, Coverage.words_ofImage, ?_,
    Coverage.illegal_eq_sum, fun group member => Coverage.exists_first_row member⟩
  rw [Listing.countP_illegal_rows]
  exact Coverage.illegal_ofImage

/-- Of four words two have no instruction for the same reason, and a third one
asks for 64 bits. -/
theorem cover_agrees_with_list_threeIllegal :
    let bytes : ByteArray := ⟨#[0x38, 0x60, 0, 1, 0, 0, 0, 0, 0xE8, 0x60, 0, 0, 0, 0, 0, 0]⟩
    let request : CodeRequest := ⟨"code.bin", none, .empty⟩
    let settings := SettingsLayer.empty.resolve
    let readFile : String → Id (Except FileFault ByteArray) := fun _ => pure (.ok bytes)
    request.settings readFile = pure (.ok settings) ∧
    settings.select "code.bin" (.ok bytes) = .ok (settings.part bytes 16) ∧
    ∃ rows : List String,
      (Command.list request).answer readFile = pure (.printed
        (Listing.header "code.bin" .ppc32 .big :: rows)) ∧
      rows.length = 4 ∧
      rows.countP (fun row => (Listing.columns row).text = "illegal") = 3 := by
  intro bytes request settings readFile
  have selected : settings.select "code.bin" (.ok bytes) = .ok (settings.part bytes 16) :=
    Settings.select_of_selects "code.bin" (show bytes.size ≠ 0 by decide)
      (.rest rfl (Nat.zero_le _))
  have given : request.settings readFile = pure (.ok settings) := rfl
  have words : (Coverage.ofImage .ppc32 .big (settings.part bytes 16)).words = 4 := by
    decide +kernel
  have illegal : (Coverage.ofImage .ppc32 .big (settings.part bytes 16)).illegal = 3 := by
    decide +kernel
  rcases cover_agrees_with_list given rfl selected with
    ⟨rows, _, _, listed, sameWords, sameIllegal, _⟩
  exact ⟨given, selected, rows, listed, sameWords.symm.trans words,
    sameIllegal.symm.trans illegal⟩

end Command

end PowerDisasm
