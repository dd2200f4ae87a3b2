import Mathlib.Algebra.BigOperators.Fin
import PowerDisasm.DecodeSession
import PowerDisasm.Proofs.FieldLayout

/-! # Values of field lists

A list of fields reads as a number in which each field counts by the width of
the fields behind it, and the same number with its top bit as a sign is what it
reads as a signed value. Both hold for fields in any order, whether or not they
overlap; beyond 32 bits the top is cut off. Fields that do not overlap hold any
value of their width, and writing a value to them undoes reading it. -/

namespace PowerDisasm

/-! ## Two's complement -/

/-- The signed number stands for the value in two's complement. Without bits there
is no other number than zero. -/
structure TwosComplement (bits value : Nat) (signed : Int) : Prop where
  congruent : signed % 2 ^ bits = value % 2 ^ bits
  least : -2 ^ bits ≤ 2 * signed
  most : 2 * signed < 2 ^ bits

theorem twosComplement_iff (bits value : Nat) (signed : Int) :
    TwosComplement bits value signed ↔ signed = (BitVec.ofNat bits value).toInt := by
  constructor
  · rintro ⟨congruent, least, most⟩
    have itself : signed.bmod (2 ^ bits) = signed := by
      apply Int.bmod_eq_of_le_mul_two
      · push_cast
        omega
      · push_cast
        omega
    rw [BitVec.toInt_ofNat', ← itself, ← Int.emod_bmod, ← Int.emod_bmod (value : Int)]
    push_cast
    rw [congruent]
  · rintro rfl
    refine ⟨?_, BitVec.le_two_mul_toInt, BitVec.two_mul_toInt_lt⟩
    rw [BitVec.toInt_ofNat']
    exact_mod_cast Int.bmod_emod

namespace Field

/-! ## Reading -/

theorem foldl_eq (fields : List Field) (word start : Word) :
    fields.foldl (fun value field => value <<< field.length ||| field.read word) start =
      start <<< totalLength fields ||| gather fields word := by
  induction fields generalizing start with
  | nil => simp [gather]
  | cons field rest induction =>
      rw [List.foldl_cons, induction, gather, totalLength_cons, BitVec.shiftLeft_add,
        BitVec.shiftLeft_or_distrib, BitVec.or_assoc]

def weightedSum (fields : List Field) (word : Word) : Nat :=
  ∑ index : Fin fields.length,
    (fields[index].read word).toNat * 2 ^ totalLength (fields.drop (index + 1))

theorem weightedSum_cons (field : Field) (rest : List Field) (word : Word) :
    weightedSum (field :: rest) word =
      (field.read word).toNat * 2 ^ totalLength rest + weightedSum rest word :=
  Fin.sum_univ_succ _

theorem shiftLeft_and_gather (value : Word) (fields : List Field) (word : Word) :
    value <<< totalLength fields &&& gather fields word = 0 := by
  apply BitVec.eq_of_getLsbD_eq
  intro index _
  rw [BitVec.getLsbD_and, BitVec.getLsbD_shiftLeft]
  by_cases low : index < totalLength fields
  · simp [low]
  · rw [getLsbD_gather_of_le fields word index (Nat.le_of_not_lt low), Bool.and_false]
    exact BitVec.getLsbD_zero.symm

theorem gather_eq_ofNat (fields : List Field) (word : Word) :
    gather fields word = BitVec.ofNat 32 (weightedSum fields word) := by
  induction fields with
  | nil => rfl
  | cons field rest induction =>
      have placed : field.read word <<< totalLength rest =
          BitVec.ofNat 32 ((field.read word).toNat * 2 ^ totalLength rest) := by
        apply BitVec.eq_of_toNat_eq
        rw [BitVec.toNat_shiftLeft, Nat.shiftLeft_eq, BitVec.toNat_ofNat]
      rw [gather, ← BitVec.add_eq_or_of_and_eq_zero _ _ (shiftLeft_and_gather _ rest word), placed,
        induction, ← BitVec.ofNat_add, weightedSum_cons]

theorem toInt_gatherSigned (fields : List Field) (word : Word) :
    (gatherSigned fields word).toInt =
      (BitVec.ofNat (min (totalLength fields) 32) (gather fields word).toNat).toInt := by
  rw [gatherSigned, toInt_signExtend, BitVec.ofNat_toNat]

/-- A byte has room for the value of fields that have no more than eight bits. -/
theorem exists_takeStep_unsignedFields (fields : List Field) (word : Word)
    (session : DecodeSession) :
    ∃ literal, session.takeStep ⟨.unsignedFields fields, word⟩ =
        (true, { session with state := { session.state with
          operands := session.state.operands ++ [.immediate literal] } }) ∧
      literal.value = (gather fields word).toNat := by
  by_cases narrow : totalLength fields ≤ 8
  · refine ⟨.unsigned8 ((gather fields word).setWidth 8), if_pos narrow, ?_⟩
    have inByte : (gather fields word).toNat < 2 ^ 8 :=
      Nat.lt_of_lt_of_le (toNat_gather_lt fields word) (Nat.pow_le_pow_right (by decide) narrow)
    rw [Immediate.value, BitVec.toNat_setWidth, Nat.mod_eq_of_lt inByte]
  · exact ⟨.unsigned32 (gather fields word), if_neg narrow, rfl⟩

/-- A list of fields reads as the sum of the values of its fields, each times two
to the width of the fields behind it, in 32 bits; one pass over the fields finds
it. As a signed value it reads as the only number that stands for this sum in
two's complement of the width of all fields, or of 32 bits if they have more. The
steps for scattered immediates put just these two numbers behind the operands of
the session, and change nothing else in it. -/
theorem gather_concatenates (fields : List Field) (word : Word) :
    gather fields word =
        fields.foldl (fun value field => value <<< field.length ||| field.read word) 0 ∧
      (gather fields word).toNat = weightedSum fields word % 2 ^ 32 ∧
      (∀ signed, TwosComplement (min (totalLength fields) 32) (gather fields word).toNat signed ↔
        signed = (gatherSigned fields word).toInt) ∧
      ∀ session : DecodeSession,
        (∃ literal, session.takeStep ⟨.unsignedFields fields, word⟩ =
            (true, { session with state := { session.state with
              operands := session.state.operands ++ [.immediate literal] } }) ∧
          literal.value = (gather fields word).toNat) ∧
        ∃ literal, session.takeStep ⟨.signedFields fields, word⟩ =
            (true, { session with state := { session.state with
              operands := session.state.operands ++ [.immediate literal] } }) ∧
          literal.value = (gatherSigned fields word).toInt := by
  refine ⟨?_, ?_, ?_, ?_⟩
  · rw [foldl_eq]
    simp
  · rw [gather_eq_ofNat, BitVec.toNat_ofNat]
  · intro signed
    rw [twosComplement_iff, toInt_gatherSigned]
  · intro session
    exact ⟨exists_takeStep_unsignedFields fields word session, _, rfl, rfl⟩

/-! ## Writing -/

theorem foldr_eq (fields : List Field) (value : Word) :
    fields.foldr (fun field (word, rest) =>
        (word ||| (rest &&& field.valueMask) <<< field.position, rest >>> field.length))
      (0, value) = (scatter fields value, value >>> totalLength fields) := by
  induction fields with
  | nil => simp [scatter]
  | cons field rest induction =>
      rw [List.foldr_cons, induction, scatter, totalLength_cons, BitVec.or_comm,
        Nat.add_comm field.length, BitVec.shiftRight_add]

/-- Writing to a list of fields, which one pass from its end does, sets no bit
outside of them. What was written to fields without common bits reads back in
their width, and what was read from a word is written back to its place, also
where bits were read twice, as long as a word has room for all that was read. -/
theorem scatter_inverts_gather (fields : List Field) :
    (∀ value, (scatter fields value, value >>> totalLength fields) =
      fields.foldr (fun field (word, rest) =>
          (word ||| (rest &&& field.valueMask) <<< field.position, rest >>> field.length))
        (0, value)) ∧
      (∀ value, scatter fields value &&& ~~~mask fields = 0) ∧
      (Separate fields → ∀ value : Word,
        (gather fields (scatter fields value)).toNat = value.toNat % 2 ^ totalLength fields) ∧
      (Separate fields ∨ totalLength fields ≤ 32 → ∀ word,
        scatter fields (gather fields word) = word &&& mask fields) := by
  refine ⟨fun value => (foldr_eq fields value).symm, ?_, ?_, ?_⟩
  · intro value
    rw [← scatter_and_mask, BitVec.and_assoc, BitVec.and_not_self]
    exact BitVec.and_zero
  · intro separate value
    exact toNat_gather_scatter fields separate value
  · intro fitting word
    exact scatter_gather fields word (fitting.elim (totalLength_le fields) id)

/-- The shift amount of a 64-bit rotation, its top bit below the others, and a
field of which the last bit is read once more. -/
theorem scatter_inverts_gather_shiftAmount :
    let amount : List Field := [.span 1 1, .span 11 5]
    let overlapping : List Field := [.span 4 8, .span 4 1]
    Separate amount ∧
      (gather amount (scatter amount 0xFFFFFFE3)).toNat = 0xFFFFFFE3 % 2 ^ 6 ∧
      totalLength overlapping ≤ 32 ∧
      scatter overlapping (gather overlapping 0x12345678) = 0x12345678 &&& mask overlapping := by
  intro amount overlapping
  have separate : Separate amount := by decide
  have fits : totalLength overlapping ≤ 32 := by decide
  rcases scatter_inverts_gather amount with ⟨_, _, readBack, _⟩
  rcases scatter_inverts_gather overlapping with ⟨_, _, _, writtenBack⟩
  exact ⟨separate, readBack separate 0xFFFFFFE3, fits, writtenBack (.inr fits) 0x12345678⟩

end Field

end PowerDisasm
