import Mathlib.Algebra.Group.Nat.Defs
import PowerDisasm.Proofs.DisassemblyCalls

/-! # A disassembly goes word by word

Whatever calls came before, the next record of a disassembly is that of the
next four bytes, as the processor decodes them on their own, and the number of
records that are left is known. -/

namespace PowerDisasm

namespace Address

theorem toNat_ofNat (value : Nat) : (ofNat value).toNat = value % 2 ^ 64 :=
  BitVec.toNat_ofNat value 64

theorem offset_natCast (address : Address) (distance : Nat) :
    address.offset distance = ofNat (address.toNat + distance) := by
  apply congrArg Address.mk
  rw [BitVec.ofInt_natCast, BitVec.ofNat_add, toNat, BitVec.ofNat_toNat, BitVec.setWidth_eq]

theorem toNat_offset_natCast (address : Address) (distance : Nat) :
    (address.offset distance).toNat = (address.toNat + distance) % 2 ^ 64 := by
  rw [offset_natCast, toNat_ofNat]

theorem offset_offset (address : Address) (first second : Int) :
    (address.offset first).offset second = address.offset (first + second) := by
  rw [offset, offset, offset, BitVec.ofInt_add, BitVec.add_assoc]

end Address

namespace Disassembly

variable {model : Model} {bytes : ByteArray} {base : Address} {order : ByteOrder}
  {now : Disassembly}

def records (events : List Event) : List Instruction :=
  events.filterMap fun event => event.answer.record?

theorem records_cons_some (position : Nat) (record : Instruction) (events : List Event) :
    records (⟨position, .record (some record)⟩ :: events) = record :: records events :=
  rfl

theorem records_cons_none (position : Nat) (events : List Event) :
    records (⟨position, .record none⟩ :: events) = records events :=
  rfl

namespace Over

theorem remaining_eq (isOver : Over model bytes base order now) :
    now.remaining = (bytes.size - now.reader.position) / 4 := by
  rw [remaining, WordReader.remaining, isOver.bytes_eq]

theorem next?_eq_none_iff_remaining (isOver : Over model bytes base order now) :
    now.next? = none ↔ bytes.size - now.reader.position < 4 := by
  have within := isOver.position_le
  rw [isOver.next?_eq_none_iff, WordBytes.get?_eq_none_iff]
  omega

theorem remaining_of_none (isOver : Over model bytes base order now) (nothing : now.next? = none) :
    now.remaining = 0 := by
  have few := isOver.next?_eq_none_iff_remaining.mp nothing
  rw [isOver.remaining_eq]
  omega

theorem remaining_of_next? (isOver : Over model bytes base order now) {record : Instruction}
    {later : Disassembly} (found : now.next? = some (record, later)) :
    now.remaining = later.remaining + 1 := by
  have enough : ¬ bytes.size - now.reader.position < 4 := by
    rw [← isOver.next?_eq_none_iff_remaining, found]
    exact Option.some_ne_none _
  rw [isOver.remaining_eq, (isOver.next found).remaining_eq]
  rcases isOver.exists_stored found with ⟨stored, _, rfl, rfl⟩
  change _ = (bytes.size - (now.reader.position + 4)) / 4 + 1
  omega

theorem length_records_replicate (isOver : Over model bytes base order now) (count : Nat) :
    (records (now.events (List.replicate count .next))).length = min count now.remaining := by
  induction count generalizing now with
  | zero => simp [events, records]
  | succ count induction =>
      cases found : now.next? with
      | none =>
          have empty := isOver.remaining_of_none found
          rw [List.replicate_succ, events, perform_next_of_none found, records_cons_none,
            induction isOver, empty, Nat.min_zero, Nat.min_zero]
      | some result =>
          rcases result with ⟨record, later⟩
          rw [List.replicate_succ, events, perform_next_of_some found, records_cons_some,
            List.length_cons, induction (isOver.next found), isOver.remaining_of_next? found,
            Nat.add_min_add_right]

end Over

/-- What a disassembly of stored bytes promises, wherever its reader stands. -/
structure WordByWord (model : Model) (bytes : ByteArray) (base : Address) (order : ByteOrder)
    (now : Disassembly) : Prop where
  position_le : now.reader.position ≤ bytes.size
  next?_eq_none_iff : now.next? = none ↔ bytes.size - now.reader.position < 4
  perform_next_of_none : now.next? = none → now.perform .next = (.record none, now)
  record_eq : ∀ record later, now.next? = some (record, later) →
    ∃ stored, WordBytes.get? bytes now.reader.position = some stored ∧
      (∀ index : Fin 4, bytes[now.reader.position + index]? = some (stored.get index)) ∧
      ∀ anyOrder, record = ((Processor.mk model anyOrder).decode (order.ofBytes stored)
        (base.offset now.reader.position)).instruction
  address_eq : (base.offset now.reader.position).toNat =
    (base.toNat + now.reader.position) % 2 ^ 64
  later_position : ∀ record later, now.next? = some (record, later) →
    later.reader.position = now.reader.position + 4
  later_address : ∀ record later behind last, now.next? = some (record, later) →
    later.next? = some (behind, last) → behind.address = record.nextAddress
  perform_seek : ∀ address, now.perform (.seek address) =
    if base.toNat ≤ address.toNat ∧ address.toNat ≤ base.toNat + bytes.size then
      (.moved none, { now with reader := ⟨bytes, base, address.toNat - base.toNat, order⟩ })
    else
      (.moved (some ⟨address, base, bytes.size⟩), now)
  length_records : ∀ count,
    (records (now.events (List.replicate count .next))).length = min count now.remaining

theorem Over.record_eq (isOver : Over model bytes base order now) {record : Instruction}
    {later : Disassembly} (found : now.next? = some (record, later)) :
    ∃ stored, WordBytes.get? bytes now.reader.position = some stored ∧
      (∀ index : Fin 4, bytes[now.reader.position + index]? = some (stored.get index)) ∧
      ∀ anyOrder, record = ((Processor.mk model anyOrder).decode (order.ofBytes stored)
        (base.offset now.reader.position)).instruction := by
  rcases isOver.exists_stored found with ⟨stored, isStored, rfl, _⟩
  rw [isOver.address_eq]
  refine ⟨stored, isStored, WordBytes.getElem?_of_get? isStored, fun anyOrder => ?_⟩
  change (DecodeState.decode (.initial model order) _ _ _).1.instruction =
    (DecodeState.decode (.initial model anyOrder) _ _ _).1.instruction
  apply DecodeState.decode_instruction_congr
  rfl

theorem Over.later_position (isOver : Over model bytes base order now) {record : Instruction}
    {later : Disassembly} (found : now.next? = some (record, later)) :
    later.reader.position = now.reader.position + 4 := by
  rcases isOver.exists_stored found with ⟨stored, _, _, rfl⟩
  rfl

theorem Over.later_address (isOver : Over model bytes base order now) {record behind : Instruction}
    {later last : Disassembly} (found : now.next? = some (record, later))
    (next : later.next? = some (behind, last)) : behind.address = record.nextAddress := by
  rcases isOver.record_eq found with ⟨stored, _, _, recordEq⟩
  rcases (isOver.next found).record_eq next with ⟨behindStored, _, _, behindEq⟩
  rw [recordEq order, behindEq order, isOver.later_position found]
  change Instruction.address (DecodeState.decode _ _ _ _).1.instruction =
    Instruction.nextAddress (DecodeState.decode _ _ _ _).1.instruction
  rw [DecodeState.decode_address, DecodeState.decode_nextAddress, Address.offset_offset]
  rfl

theorem Over.wordByWord (isOver : Over model bytes base order now) :
    WordByWord model bytes base order now where
  position_le := isOver.position_le
  next?_eq_none_iff := isOver.next?_eq_none_iff_remaining
  perform_next_of_none := Disassembly.perform_next_of_none
  record_eq _ _ := isOver.record_eq
  address_eq := Address.toNat_offset_natCast base now.reader.position
  later_position _ _ := isOver.later_position
  later_address _ _ _ _ := isOver.later_address
  perform_seek := isOver.perform_seek
  length_records := isOver.length_records_replicate

/-- A disassembly goes word by word after any calls. -/
theorem wordByWord_after (model : Model) (bytes : ByteArray) (base : Address)
    (order : ByteOrder) (calls : List Call) :
    WordByWord model bytes base order
      ((ofReader model (.ofBytes bytes base order)).after calls) :=
  ((over_ofReader model bytes base order).after calls).wordByWord

end Disassembly

end PowerDisasm
