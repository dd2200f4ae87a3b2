import Mathlib.Data.List.Nodup
import PowerDisasm.Mnemonic

/-! # Names of mnemonics

No two mnemonics have the same name, and a name has none of the signs that
stand around it in assembly text. Both are told from the bytes of the names,
which are in ascending order. -/

namespace PowerDisasm.Mnemonic

theorem ctorIdx_le (mnemonic : Mnemonic) : mnemonic.ctorIdx ≤ xoris.ctorIdx := by
  cases mnemonic <;> decide

theorem mem_all (mnemonic : Mnemonic) : mnemonic ∈ all :=
  List.mem_map.mpr ⟨mnemonic.ctorIdx,
    List.mem_range.mpr (Nat.lt_succ_of_le mnemonic.ctorIdx_le), mnemonic.ofNat_ctorIdx⟩

def nameBytes (mnemonic : Mnemonic) : List UInt8 :=
  mnemonic.name.toByteArray.data.toList

theorem nameBytes_eq (mnemonic : Mnemonic) :
    mnemonic.nameBytes = mnemonic.name.toList.flatMap String.utf8EncodeChar := by
  rw [nameBytes, ← String.utf8Encode_toList, List.utf8Encode]
  exact List.toList_data_toByteArray

/-! ## Different names -/

theorem nameBytes_ascending : ((all.drop 1).map nameBytes).IsChain (· < ·) := by
  decide +kernel

/-- The one name that is out of order. -/
theorem nameBytes_illegal_notMem : nameBytes .illegal ∉ (all.drop 1).map nameBytes := by
  decide +kernel

theorem nameBytes_nodup : (all.map nameBytes).Nodup := by
  have ordered := List.isChain_iff_pairwise.mp nameBytes_ascending
  have nodup : ((all.drop 1).map nameBytes).Nodup := by
    apply ordered.imp
    rintro lower _ less rfl
    exact List.lt_irrefl lower less
  exact List.nodup_cons.mpr ⟨nameBytes_illegal_notMem, nodup⟩

theorem name_injective : Function.Injective name := by
  intro left right same
  exact List.inj_on_of_nodup_map nameBytes_nodup left.mem_all right.mem_all
    (congrArg (fun text => text.toByteArray.data.toList) same)

/-! ## Characters of names -/

theorem nameBytes_from_digits :
    ∀ mnemonic ∈ all, (mnemonic.nameBytes.all fun byte => Nat.ble 48 byte.toNat) = true := by
  decide +kernel

/-- Dots, commas and tabs are below the digits, and no character of a name is. -/
theorem digits_le_of_mem_name {mnemonic : Mnemonic} {character : Char}
    (member : character ∈ mnemonic.name.toList) : 48 ≤ character.toNat := by
  by_contra below
  have encoded : UInt8.ofNat character.toNat ∈ String.utf8EncodeChar character := by
    have single : character.toNat ≤ 127 := by omega
    simp [String.utf8EncodeChar, single]
  have byte : UInt8.ofNat character.toNat ∈ mnemonic.nameBytes := by
    rw [nameBytes_eq]
    exact List.mem_flatMap_of_mem member encoded
  have large := List.all_eq_true.mp (nameBytes_from_digits mnemonic mnemonic.mem_all) _ byte
  have small : character.toNat < 256 := by omega
  rw [Nat.ble_eq, UInt8.toNat_ofNat_of_lt' small] at large
  exact below large

end PowerDisasm.Mnemonic
