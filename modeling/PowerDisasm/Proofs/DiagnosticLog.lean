import Mathlib.Tactic.IntervalCases
import PowerDisasm.Proofs.DisassemblyCalls
import PowerDisasm.Proofs.TableEncodings

/-! # One diagnostic for each illegal record

A word is reported exactly if its record is the illegal one. Over a whole run
of calls the diagnostics handed over, with those still collected behind them,
are in step with the illegal records, and each has the bytes as they are
stored. -/

namespace PowerDisasm

theorem WordBytes.exists_elements (stored : WordBytes) :
    ∃ first second third fourth, stored = #v[first, second, third, fourth] := by
  refine ⟨stored[0], stored[1], stored[2], stored[3], Vector.ext ?_⟩
  intro index bound
  interval_cases index <;> rfl

namespace ByteOrder

theorem getLsbD_join (first second third fourth : UInt8) (index : Nat) :
    (join first second third fourth).getLsbD index =
      if index < 8 then fourth.toBitVec.getLsbD index
      else if index - 8 < 8 then third.toBitVec.getLsbD (index - 8)
      else if index - 8 - 8 < 8 then second.toBitVec.getLsbD (index - 8 - 8)
      else first.toBitVec.getLsbD (index - 8 - 8 - 8) := by
  change (first.toBitVec ++ second.toBitVec ++ third.toBitVec ++ fourth.toBitVec :
    BitVec (8 + 8 + 8 + 8)).getLsbD index = _
  rw [BitVec.getLsbD_append, BitVec.getLsbD_append, BitVec.getLsbD_append]

theorem byteAt_join (first second third fourth : UInt8) :
    byteAt (join first second third fourth) 24 = first ∧
      byteAt (join first second third fourth) 16 = second ∧
        byteAt (join first second third fourth) 8 = third ∧
          byteAt (join first second third fourth) 0 = fourth := by
  have byte {word : Word} {low : Nat} {stored : UInt8}
      (bits : ∀ index < 8, word.getLsbD (low + index) = stored.toBitVec.getLsbD index) :
      byteAt word low = stored := by
    rw [← UInt8.toBitVec_inj]
    apply BitVec.eq_of_getLsbD_eq
    intro index bound
    rw [byteAt, UInt8.toBitVec_ofBitVec, BitVec.getLsbD_setWidth, BitVec.getLsbD_ushiftRight,
      bits index bound, decide_eq_true bound, Bool.true_and]
  refine ⟨byte ?_, byte ?_, byte ?_, byte ?_⟩ <;>
    · intro index bound
      rw [getLsbD_join]
      interval_cases index <;> rfl

theorem toBytes_ofBytes (order : ByteOrder) (stored : WordBytes) :
    order.toBytes (order.ofBytes stored) = stored := by
  rcases stored.exists_elements with ⟨first, second, third, fourth, rfl⟩
  cases order with
  | big =>
      rcases byteAt_join first second third fourth with ⟨isFirst, isSecond, isThird, isFourth⟩
      change toBytes .big (join first second third fourth) = _
      simp only [toBytes, isFirst, isSecond, isThird, isFourth]
  | little =>
      rcases byteAt_join fourth third second first with ⟨isFourth, isThird, isSecond, isFirst⟩
      change toBytes .little (join fourth third second first) = _
      simp only [toBytes, isFirst, isSecond, isThird, isFourth]

end ByteOrder

namespace DecodeState

theorem decode_reported (state : DecodeState) (model : Model) (word : Word) (address : Address) :
    ((state.decode model.tree word address).1.instruction.isValid = true ∧
      (state.decode model.tree word address).1.diagnostic = none) ∨
    ((state.decode model.tree word address).1.instruction.isValid = false ∧
      ∃ kind message, (state.decode model.tree word address).1.diagnostic =
        some ⟨decoderName, kind, address, state.order.toBytes word, message⟩) := by
  rcases decode_cases state model.tree word address with
    ⟨form, contributions, reached, _, outcome⟩ | ⟨kind, message, outcome⟩
  · left
    have valid := model.tree_forms_valid form (DecodeTree.mem_forms_of_reach reached)
    rw [outcome, markZero_isValid]
    exact ⟨congrArg not valid, rfl⟩
  · right
    rw [outcome, markZero_isValid]
    exact ⟨rfl, kind, message, rfl⟩

end DecodeState

theorem Collector.toList_report (collector : Collector) (diagnostic : Diagnostic) :
    (collector.report diagnostic).toList = collector.toList ++ [diagnostic] :=
  Array.toList_push

namespace Disassembly

variable {model : Model} {bytes : ByteArray} {base : Address} {order : ByteOrder}
  {now : Disassembly}

def illegalRecords (events : List Event) : List (Nat × Instruction) :=
  events.filterMap fun event =>
    (event.answer.record?.filter fun record => !record.isValid).map fun record =>
      (event.position, record)

def takenDiagnostics (events : List Event) : List Diagnostic :=
  events.flatMap fun event => event.answer.taken

/-- The diagnostic is about the record of the word stored at the position. -/
structure Reports (bytes : ByteArray) (found : Nat × Instruction) (diagnostic : Diagnostic) :
    Prop where
  decoder_eq : diagnostic.decoder = "PPCDis"
  address_eq : diagnostic.address = found.2.address
  bytes_eq : WordBytes.get? bytes found.1 = some diagnostic.bytes
  getElem?_bytes : ∀ index : Fin 4, bytes[found.1 + index]? = some (diagnostic.bytes.get index)

theorem illegalRecords_of_valid {record : Instruction} (valid : record.isValid = true)
    (position : Nat) : illegalRecords [⟨position, .record (some record)⟩] = [] := by
  simp [illegalRecords, Answer.record?, valid]

theorem illegalRecords_of_not_valid {record : Instruction} (illegal : record.isValid = false)
    (position : Nat) :
    illegalRecords [⟨position, .record (some record)⟩] = [(position, record)] := by
  simp [illegalRecords, Answer.record?, illegal]

theorem illegalRecords_cons (event : Event) (events : List Event) :
    illegalRecords (event :: events) = illegalRecords [event] ++ illegalRecords events := by
  rw [illegalRecords, illegalRecords, illegalRecords, ← List.filterMap_append]
  rfl

namespace Over

theorem exists_reported_next (isOver : Over model bytes base order now) {record : Instruction}
    {later : Disassembly} (found : now.next? = some (record, later)) :
    ∃ fresh,
      List.Forall₂ (Reports bytes)
        (illegalRecords [⟨now.reader.position, .record (some record)⟩]) fresh ∧
      later.collector.toList = now.collector.toList ++ fresh := by
  rcases isOver.exists_stored found with ⟨stored, isStored, rfl, rfl⟩
  rcases DecodeState.decode_reported (.initial model order) model (order.ofBytes stored)
      now.reader.address with ⟨valid, silent⟩ | ⟨illegal, kind, message, reported⟩
  · refine ⟨[], ?_, ?_⟩
    · rw [decodeStored, illegalRecords_of_valid valid]
      exact .nil
    · rw [decodeStored, silent]
      exact (List.append_nil _).symm
  · refine ⟨[⟨DecodeState.decoderName, kind, now.reader.address,
      order.toBytes (order.ofBytes stored), message⟩], ?_, ?_⟩
    · rw [decodeStored, illegalRecords_of_not_valid illegal, order.toBytes_ofBytes]
      exact .cons ⟨rfl, (DecodeState.decode_address _ _ _ _).symm, isStored,
        WordBytes.getElem?_of_get? isStored⟩ .nil
    · rw [decodeStored, reported]
      exact Collector.toList_report now.collector _

theorem exists_reported (isOver : Over model bytes base order now) (call : Call) :
    ∃ fresh,
      List.Forall₂ (Reports bytes)
        (illegalRecords [⟨now.reader.position, (now.perform call).1⟩]) fresh ∧
      (now.perform call).1.taken ++ (now.perform call).2.collector.toList =
        now.collector.toList ++ fresh := by
  cases call with
  | next =>
      cases found : now.next? with
      | none =>
          rw [perform_next_of_none found]
          exact ⟨[], .nil, (List.append_nil _).symm⟩
      | some result =>
          rcases result with ⟨record, later⟩
          rw [perform_next_of_some found]
          exact isOver.exists_reported_next found
  | read =>
      rw [Disassembly.perform, read?]
      cases now.reader.read? <;> exact ⟨[], .nil, (List.append_nil _).symm⟩
  | seek address =>
      rw [isOver.perform_seek]
      split <;> exact ⟨[], .nil, (List.append_nil _).symm⟩
  | takeDiagnostics => exact ⟨[], .nil, rfl⟩

/-- Over a whole run, what is taken and what is left at its end are what was
there before it and one diagnostic for each illegal record. -/
theorem exists_reported_events (isOver : Over model bytes base order now) (calls : List Call) :
    ∃ fresh,
      List.Forall₂ (Reports bytes) (illegalRecords (now.events calls)) fresh ∧
      takenDiagnostics (now.events calls) ++ (now.after calls).collector.toList =
        now.collector.toList ++ fresh := by
  induction calls generalizing now with
  | nil => exact ⟨[], .nil, (List.append_nil _).symm⟩
  | cons call rest induction =>
      rcases isOver.exists_reported call with ⟨first, firstReported, firstEq⟩
      rcases induction (isOver.perform call) with ⟨later, laterReported, laterEq⟩
      refine ⟨first ++ later, ?_, ?_⟩
      · rw [events, illegalRecords_cons]
        exact List.rel_append firstReported laterReported
      · rw [events, Disassembly.after, takenDiagnostics, List.flatMap_cons, ← takenDiagnostics,
          List.append_assoc, laterEq, ← List.append_assoc, firstEq, List.append_assoc]

end Over

/-- The diagnostics taken and the ones still collected are one for each illegal
record, in the order of the records. -/
theorem diagnostics_of_illegalRecords (model : Model) (bytes : ByteArray) (base : Address)
    (order : ByteOrder) (calls : List Call) :
    let start := ofReader model (.ofBytes bytes base order)
    List.Forall₂ (Reports bytes) (illegalRecords (start.events calls))
      (takenDiagnostics (start.events calls) ++ (start.after calls).collector.toList) := by
  intro start
  rcases (over_ofReader model bytes base order).exists_reported_events calls with
    ⟨fresh, reported, fromEmpty⟩
  rw [fromEmpty]
  exact reported

end Disassembly

end PowerDisasm
