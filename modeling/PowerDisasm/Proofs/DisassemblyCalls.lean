import PowerDisasm.Disassembly
import PowerDisasm.Proofs.DecodeOutcome

/-! # Calls on a disassembly

A disassembly and its reader may be called in any order. What every call keeps
is told here once: the bytes and where they lie, that the reader stays within
them, and that the decode state starts every word as if it were the first. -/

namespace PowerDisasm

namespace Disassembly

inductive Call where
  | next
  | read
  | seek (address : Address)
  | takeDiagnostics
deriving DecidableEq

inductive Answer where
  | record (given : Option Instruction)
  | word (given : Option Word)
  | moved (fault : Option WordReader.OutOfRange)
  | diagnostics (given : List Diagnostic)
deriving DecidableEq

namespace Answer

def record? : Answer → Option Instruction
  | .record given => given
  | _ => none

def taken : Answer → List Diagnostic
  | .diagnostics given => given
  | _ => []

end Answer

structure Event where
  position : Nat
  answer : Answer
deriving DecidableEq

def perform (disassembly : Disassembly) : Call → Answer × Disassembly
  | .next =>
      match disassembly.next? with
      | some (record, next) => (.record (some record), next)
      | none => (.record none, disassembly)
  | .read =>
      match disassembly.read? with
      | some (word, next) => (.word (some word), next)
      | none => (.word none, disassembly)
  | .seek address =>
      match disassembly.seek address with
      | .ok next => (.moved none, next)
      | .error fault => (.moved (some fault), disassembly)
  | .takeDiagnostics =>
      let (taken, next) := disassembly.takeDiagnostics
      (.diagnostics taken, next)

def after (disassembly : Disassembly) : List Call → Disassembly
  | [] => disassembly
  | call :: rest => (disassembly.perform call).2.after rest

def events (disassembly : Disassembly) : List Call → List Event
  | [] => []
  | call :: rest =>
      ⟨disassembly.reader.position, (disassembly.perform call).1⟩ ::
        (disassembly.perform call).2.events rest

end Disassembly

/-! ## Stored words -/

namespace WordBytes

theorem get?_eq_none_iff {bytes : ByteArray} {position : Nat} :
    get? bytes position = none ↔ bytes.size < position + 4 := by
  unfold get?
  split
  next within => simpa using within
  next beyond => simpa using beyond

theorem within_of_get? {bytes : ByteArray} {position : Nat} {stored : WordBytes}
    (found : get? bytes position = some stored) : position + 4 ≤ bytes.size := by
  apply Nat.le_of_not_lt
  rw [← get?_eq_none_iff, found]
  exact Option.some_ne_none stored

theorem getElem?_of_get? {bytes : ByteArray} {position : Nat} {stored : WordBytes}
    (found : get? bytes position = some stored) (index : Fin 4) :
    bytes[position + index]? = some (stored.get index) := by
  have within := within_of_get? found
  unfold get? at found
  rw [dif_pos within] at found
  cases found
  have inside : position + index < bytes.size := by omega
  rw [getElem?_pos bytes (position + index) inside]
  match index with
  | 0 | 1 | 2 | 3 => rfl

end WordBytes

/-! ## What calls keep -/

namespace Disassembly

variable {model : Model} {bytes : ByteArray} {base : Address} {order : ByteOrder}
  {now : Disassembly}

theorem perform_next_of_some {record : Instruction} {later : Disassembly}
    (found : now.next? = some (record, later)) :
    now.perform .next = (.record (some record), later) := by
  rw [perform, found]

theorem perform_next_of_none (nothing : now.next? = none) :
    now.perform .next = (.record none, now) := by
  rw [perform, nothing]

/-- The disassembly is one of a model over stored bytes, within these bytes and
with a decode state like a new one. -/
structure Over (model : Model) (bytes : ByteArray) (base : Address) (order : ByteOrder)
    (now : Disassembly) : Prop where
  model_eq : now.model = model
  bytes_eq : now.reader.bytes = bytes
  base_eq : now.reader.base = base
  order_eq : now.reader.order = order
  position_le : now.reader.position ≤ bytes.size
  start_eq : ∀ address, now.state.start address = (DecodeState.initial model order).start address

theorem over_ofReader (model : Model) (bytes : ByteArray) (base : Address) (order : ByteOrder) :
    Over model bytes base order (ofReader model (.ofBytes bytes base order)) where
  model_eq := rfl
  bytes_eq := rfl
  base_eq := rfl
  order_eq := rfl
  position_le := Nat.zero_le _
  start_eq _ := rfl

namespace Over

def decodeStored (model : Model) (order : ByteOrder) (stored : WordBytes) (address : Address) :
    Decoded × DecodeState :=
  (DecodeState.initial model order).decode model.tree (order.ofBytes stored) address

theorem address_eq (isOver : Over model bytes base order now) :
    now.reader.address = base.offset now.reader.position := by
  rw [WordReader.address, isOver.base_eq]

theorem read?_eq (isOver : Over model bytes base order now) :
    now.reader.read? = (WordBytes.get? bytes now.reader.position).map fun stored =>
      (order.ofBytes stored, ⟨bytes, base, now.reader.position + 4, order⟩) := by
  rw [WordReader.read?, isOver.bytes_eq, isOver.base_eq, isOver.order_eq]

theorem next?_eq_none_iff (isOver : Over model bytes base order now) :
    now.next? = none ↔ WordBytes.get? bytes now.reader.position = none := by
  rw [next?, isOver.read?_eq]
  cases WordBytes.get? bytes now.reader.position <;> simp

theorem exists_stored (isOver : Over model bytes base order now) {record : Instruction}
    {later : Disassembly} (found : now.next? = some (record, later)) :
    ∃ stored, WordBytes.get? bytes now.reader.position = some stored ∧
      record = (decodeStored model order stored now.reader.address).1.instruction ∧
      later = {
        model := model
        reader := ⟨bytes, base, now.reader.position + 4, order⟩
        state := (decodeStored model order stored now.reader.address).2
        collector :=
          (decodeStored model order stored now.reader.address).1.diagnostic.elim
            now.collector now.collector.report } := by
  rw [next?, isOver.read?_eq, isOver.model_eq] at found
  cases isStored : WordBytes.get? bytes now.reader.position with
  | none =>
      rw [isStored] at found
      cases found
  | some stored =>
      rw [isStored] at found
      simp only [Option.map_some,
        DecodeState.decode_congr (isOver.start_eq now.reader.address)] at found
      cases found
      exact ⟨stored, rfl, rfl, rfl⟩

theorem move (isOver : Over model bytes base order now) {position : Nat}
    (within : position ≤ bytes.size) :
    Over model bytes base order
      { now with reader := ⟨bytes, base, position, order⟩ } where
  model_eq := isOver.model_eq
  bytes_eq := rfl
  base_eq := rfl
  order_eq := rfl
  position_le := within
  start_eq := isOver.start_eq

theorem next (isOver : Over model bytes base order now) {record : Instruction}
    {later : Disassembly} (found : now.next? = some (record, later)) :
    Over model bytes base order later := by
  rcases isOver.exists_stored found with ⟨stored, isStored, _, rfl⟩
  exact {
    model_eq := rfl
    bytes_eq := rfl
    base_eq := rfl
    order_eq := rfl
    position_le := WordBytes.within_of_get? isStored
    start_eq := fun address => DecodeState.start_decode _ _ _ _ address }

theorem perform_seek (isOver : Over model bytes base order now) (address : Address) :
    now.perform (.seek address) =
      if base.toNat ≤ address.toNat ∧ address.toNat ≤ base.toNat + bytes.size then
        (.moved none, { now with reader := ⟨bytes, base, address.toNat - base.toNat, order⟩ })
      else
        (.moved (some ⟨address, base, bytes.size⟩), now) := by
  have sameBound : (base.toNat ≤ address.toNat ∧ address.toNat - base.toNat ≤ bytes.size) ↔
      (base.toNat ≤ address.toNat ∧ address.toNat ≤ base.toNat + bytes.size) := by omega
  rw [Disassembly.perform, Disassembly.seek, WordReader.seek, isOver.bytes_eq, isOver.base_eq,
    isOver.order_eq]
  by_cases inside : base.toNat ≤ address.toNat ∧ address.toNat ≤ base.toNat + bytes.size
  · rw [if_pos (sameBound.mpr inside), if_pos inside]
  · rw [if_neg fun within => inside (sameBound.mp within), if_neg inside]

/-- Every call keeps the bytes, the bounds and the fresh starts. -/
theorem perform (isOver : Over model bytes base order now) (call : Call) :
    Over model bytes base order (now.perform call).2 := by
  cases call with
  | next =>
      rw [Disassembly.perform]
      split
      next found => exact isOver.next found
      next => exact isOver
  | read =>
      rw [Disassembly.perform, read?, isOver.read?_eq]
      cases isStored : WordBytes.get? bytes now.reader.position with
      | none => exact isOver
      | some stored => exact isOver.move (WordBytes.within_of_get? isStored)
  | seek address =>
      rw [isOver.perform_seek]
      split
      next inside => exact isOver.move (Nat.sub_le_of_le_add (Nat.add_comm _ _ ▸ inside.2))
      next => exact isOver
  | takeDiagnostics => exact { isOver with }

theorem after (isOver : Over model bytes base order now) (calls : List Call) :
    Over model bytes base order (now.after calls) := by
  induction calls generalizing now with
  | nil => exact isOver
  | cons call rest induction => exact induction (isOver.perform call)

end Over

end Disassembly

end PowerDisasm
