import PowerDisasm.Proofs.WordByWord

/-! # Addresses that a reader moves to

A reader reports addresses that wrap around, but goes to an address only by its
distance from the base, which does not. So it finds the way back to every
address that it reports before the end of the address space, and to none that
it reports behind it. -/

namespace PowerDisasm.WordReader

/-! ## Moving by addresses -/

theorem address_eq_ofNat (reader : WordReader) :
    reader.address = .ofNat (reader.base.toNat + reader.position) :=
  reader.base.offset_natCast reader.position

/-- A position is found by its address exactly if the address space does not
end before it. -/
theorem seek_position_iff (reader : WordReader) {position : Nat}
    (within : position ≤ reader.bytes.size) :
    reader.seek (.ofNat (reader.base.toNat + position)) = .ok { reader with position := position } ↔
      reader.base.toNat + position < 2 ^ 64 := by
  rw [seek, Address.toNat_ofNat]
  constructor
  · intro moved
    split at moved
    next inside =>
      have samePosition := congrArg WordReader.position (Except.ok.inj moved)
      dsimp only at samePosition
      omega
    next => cases moved
  · intro before
    rw [Nat.mod_eq_of_lt before, Nat.add_sub_cancel_left]
    exact if_pos ⟨Nat.le_add_right _ _, within⟩

theorem seek_eq_error (reader : WordReader) {position : Nat} (bound : position < 2 ^ 64)
    (behind : 2 ^ 64 ≤ reader.base.toNat + position) :
    reader.seek (.ofNat (reader.base.toNat + position)) =
      .error ⟨.ofNat (reader.base.toNat + position), reader.base, reader.bytes.size⟩ := by
  have baseBound : reader.base.toNat < 2 ^ 64 := reader.base.bits.isLt
  have wrapped : (reader.base.toNat + position) % 2 ^ 64 < reader.base.toNat := by omega
  rw [seek, Address.toNat_ofNat]
  exact if_neg fun inside => Nat.not_lt_of_le inside.1 wrapped

/-! ## Readers in use -/

inductive Reaches (start : WordReader) : WordReader → Prop where
  | start : Reaches start start
  | read {now next : WordReader} {word : Word} (before : Reaches start now)
      (found : now.read? = some (word, next)) : Reaches start next
  | seek {now next : WordReader} {address : Address} (before : Reaches start now)
      (moved : now.seek address = .ok next) : Reaches start next

structure Within (bytes : ByteArray) (base : Address) (reader : WordReader) : Prop where
  bytes_eq : reader.bytes = bytes
  base_eq : reader.base = base
  position_le : reader.position ≤ bytes.size

namespace Within

variable {bytes : ByteArray} {base : Address} {reader next : WordReader}

theorem read (within : Within bytes base reader) {word : Word}
    (found : reader.read? = some (word, next)) : Within bytes base next := by
  rcases Option.map_eq_some_iff.mp found with ⟨stored, isStored, same⟩
  cases same
  refine ⟨within.bytes_eq, within.base_eq, ?_⟩
  rw [← within.bytes_eq]
  exact WordBytes.within_of_get? isStored

theorem seek (within : Within bytes base reader) {address : Address}
    (moved : reader.seek address = .ok next) : Within bytes base next := by
  unfold WordReader.seek at moved
  split at moved
  next inside =>
    cases moved
    exact ⟨within.bytes_eq, within.base_eq, within.bytes_eq ▸ inside.2⟩
  next => cases moved

end Within

theorem Reaches.within {bytes : ByteArray} {base : Address} {order : ByteOrder}
    {reader : WordReader} (reaches : (ofBytes bytes base order).Reaches reader) :
    Within bytes base reader := by
  induction reaches with
  | start => exact ⟨rfl, rfl, Nat.zero_le _⟩
  | read _ found within => exact within.read found
  | seek _ moved within => exact within.seek moved

/-- From wherever it stands, a reader goes to a position by the address of the
position exactly if the position is in front of the end of the address space,
and otherwise says that the address is out of range. So it stays where it is
when it goes to its own address, unless that is behind the end. -/
theorem seek_address_iff (bytes : ByteArray) (base : Address) (order : ByteOrder)
    (reader : WordReader) (reaches : (ofBytes bytes base order).Reaches reader) :
    (∀ position ≤ bytes.size,
      (reader.seek (.ofNat (base.toNat + position)) = .ok { reader with position := position } ↔
        base.toNat + position < 2 ^ 64) ∧
      (position < 2 ^ 64 → 2 ^ 64 ≤ base.toNat + position →
        reader.seek (.ofNat (base.toNat + position)) =
          .error ⟨.ofNat (base.toNat + position), base, bytes.size⟩)) ∧
    reader.address = .ofNat (base.toNat + reader.position) ∧
    (reader.seek reader.address = .ok reader ↔ base.toNat + reader.position < 2 ^ 64) := by
  rcases reaches.within with ⟨rfl, rfl, within⟩
  refine ⟨fun position bound => ⟨reader.seek_position_iff bound, reader.seek_eq_error⟩,
    reader.address_eq_ofNat, ?_⟩
  rw [address_eq_ofNat]
  exact reader.seek_position_iff within

def lastWord : WordReader :=
  ofBytes ⟨#[0x60, 0x00, 0x00, 0x00]⟩ (.ofNat 0xFFFFFFFFFFFFFFFC) .big

theorem seek_address_iff_lastWord :
    lastWord.Reaches { lastWord with position := 4 } ∧
    ∀ position ≤ 4, { lastWord with position := 4 }.seek (.ofNat (0xFFFFFFFFFFFFFFFC + position)) =
      .ok { lastWord with position := position } ↔ position < 4 := by
  have reaches : lastWord.Reaches { lastWord with position := 4 } :=
    .read .start (show lastWord.read? = some (0x60000000, _) from rfl)
  refine ⟨reaches, fun position within => ?_⟩
  have before : 0xFFFFFFFFFFFFFFFC + position < 2 ^ 64 ↔ position < 4 := by omega
  rw [← before]
  exact ((seek_address_iff _ _ _ _ reaches).1 position within).1

/-- Behind its last word the reader reports an address that it does not go to. -/
theorem lastWord_end_out_of_range :
    lastWord.Reaches { lastWord with position := 4 } ∧
    { lastWord with position := 4 }.address = .ofNat 0 ∧
    { lastWord with position := 4 }.seek (.ofNat 0) =
      .error ⟨.ofNat 0, .ofNat 0xFFFFFFFFFFFFFFFC, 4⟩ :=
  ⟨.read .start (show lastWord.read? = some (0x60000000, _) from rfl), by decide, rfl⟩

end PowerDisasm.WordReader
