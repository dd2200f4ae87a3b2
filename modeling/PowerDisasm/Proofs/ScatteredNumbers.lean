import Mathlib.Tactic.IntervalCases
import PowerDisasm.Proofs.EncodedWords

/-! # Scattered register numbers

The numbers of 128 vector registers have seven bits, of which an encoding has
room for no more than five in one place. What a step can read is told here from
the fields in which it finds the parts of a number. -/

namespace PowerDisasm

/-! ## The parts of a register number -/

namespace DecodeStep

/-- Where the bits of a register number of seven bits are, from the top. -/
def vectorFields? : DecodeStep → Option (List Field)
  | .vectorTarget128 => some [.span 2 2, .span 21 5]
  | .vectorFirst128 => some [.bit 10, .bit 5, .span 16 5]
  | .vectorSecond128 => some [.span 0 2, .span 11 5]
  | _ => none

theorem evaluate_of_vectorFields? {step : DecodeStep} {fields : List Field}
    (scattered : step.vectorFields? = some fields) (site : DecodeSite) (word : Word) :
    step.evaluate site word =
      some (.operand (.register (site.registers.vector (Field.gather fields word)))) := by
  have sameRegister {left right : Word}
      (bits : ∀ index < 32, left.getLsbD index = right.getLsbD index) :
      some (Contribution.operand (.register (site.registers.vector left))) =
        some (Contribution.operand (.register (site.registers.vector right))) := by
    rw [BitVec.eq_of_getLsbD_eq bits]
  cases step <;> cases scattered <;>
    · apply sameRegister
      intro index bound
      simp only [Field.gather, Field.read, Field.valueMask, Field.totalLength]
      interval_cases index <;> simp [Field.bit]

theorem vectorFields?_separate {step : DecodeStep} {fields : List Field}
    (scattered : step.vectorFields? = some fields) : Field.Separate fields := by
  cases step <;> cases scattered <;> decide

theorem vectorFields?_totalLength {step : DecodeStep} {fields : List Field}
    (scattered : step.vectorFields? = some fields) : Field.totalLength fields = 7 := by
  cases step <;> cases scattered <;> rfl

end DecodeStep

/-! ## What steps can read -/

abbrev Contribution.vector (number : Nat) : Contribution :=
  .operand (.register (.vector number))

namespace DecodeStep

def CanRead (model : Model) (step : DecodeStep) (contribution : Contribution) : Prop :=
  ∃ address word, step.evaluate (model.site address) word = some contribution

theorem vector_xenon (address : Address) (bits : Word) :
    (Model.xenon.site address).registers.vector bits = .vector (bits.toNat % 128) :=
  rfl

theorem canRead_vector_iff {step : DecodeStep} {fields : List Field}
    (scattered : step.vectorFields? = some fields) (contribution : Contribution) :
    step.CanRead .xenon contribution ↔
      ∃ number < 128, contribution = .vector number := by
  have width := vectorFields?_totalLength scattered
  constructor
  · rintro ⟨address, word, read⟩
    rw [evaluate_of_vectorFields? scattered, vector_xenon] at read
    exact ⟨_, Nat.mod_lt _ (by decide), (Option.some.inj read).symm⟩
  · rintro ⟨number, bound, rfl⟩
    refine ⟨.ofNat 0, Field.scatter fields (BitVec.ofNat 32 number), ?_⟩
    rw [evaluate_of_vectorFields? scattered, vector_xenon,
      Field.gather_scatter fields (vectorFields?_separate scattered) number (by rwa [width]),
      Nat.mod_eq_of_lt bound]

theorem canRead_recordFlag6_iff (model : Model) (contribution : Contribution) :
    recordFlag6.CanRead model contribution ↔ ∃ flag, contribution = .setsCr0 flag := by
  constructor
  · rintro ⟨address, word, read⟩
    exact ⟨_, (Option.some.inj read).symm⟩
  · rintro ⟨flag, rfl⟩
    refine ⟨.ofNat 0, if flag then 0x40 else 0, ?_⟩
    cases flag <;> rfl

theorem testBit_vectorFirst128 {address : Address} {word : Word} {number : Nat}
    (read : vectorFirst128.evaluate (Model.xenon.site address) word = some (.vector number)) :
    number.testBit 5 = word.getLsbD 5 := by
  rw [evaluate_of_vectorFields? rfl, vector_xenon] at read
  cases read
  change ((Field.gather _ word).toNat % 2 ^ 7).testBit 5 = word.getLsbD 5
  rw [Nat.testBit_mod_two_pow, BitVec.testBit_toNat]
  simp [Field.gather, Field.bit, Field.read, Field.valueMask, Field.totalLength]

end DecodeStep

end PowerDisasm
