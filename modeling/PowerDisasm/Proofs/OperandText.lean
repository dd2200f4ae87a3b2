import Mathlib.Data.List.Forall2
import PowerDisasm.Proofs.EncodedWords
import PowerDisasm.Proofs.NumeralText
import PowerDisasm.Proofs.SpecialRegisters

/-! # Operands and their text

A step reads operands of one kind only: registers of one file, numbers of one
width and sign, places in memory, or targets. The text of an operand does not
tell its kind, but it tells the operands of one kind apart. -/

namespace PowerDisasm

/-! ## Names of special-purpose registers -/

/-- A name stands for one register, and none begins like a number behind `0x`. -/
structure SpecialNames.Unambiguous (specials : SpecialNames) : Prop where
  numbers_nodup : (specials.entries.map (·.1)).Nodup
  names_nodup : (specials.entries.map (·.2)).Nodup
  isAlphanumeric : ∀ entry ∈ specials.entries, IsAlphanumeric entry.2
  not_marked : ∀ entry ∈ specials.entries, entry.2.toList.head? ≠ some '0'

namespace SpecialNames.Unambiguous

variable {specials : SpecialNames}

theorem mem_entries (clear : specials.Unambiguous) {number : Nat} {name : String}
    (named : specials.name? number = some name) : (number, name) ∈ specials.entries :=
  (lookup_eq_some_iff clear.numbers_nodup).mp named

theorem number_eq (clear : specials.Unambiguous) {left right : Nat} {name : String}
    (leftNamed : specials.name? left = some name)
    (rightNamed : specials.name? right = some name) : left = right := by
  have same := List.inj_on_of_nodup_map clear.names_nodup (clear.mem_entries leftNamed)
    (clear.mem_entries rightNamed) rfl
  exact congrArg Prod.fst same

theorem name_ne_marked (clear : specials.Unambiguous) {number : Nat} {name : String}
    (named : specials.name? number = some name) (digits : String) : name ≠ "0x" ++ digits := by
  rintro rfl
  apply clear.not_marked _ (clear.mem_entries named)
  rw [String.toList_append]
  rfl

end SpecialNames.Unambiguous

theorem Model.specials_unambiguous (model : Model) :
    (RegisterCatalog.ofModel model).specials.Unambiguous := by
  cases model <;> constructor <;> decide +kernel

/-! ## Kinds of operands -/

inductive OperandKind where
  | general
  | floating
  | vector
  | condition
  | special
  | unsigned8
  | signed16
  | unsigned16
  | signed32
  | unsigned32
  | memory
  | target
deriving DecidableEq

namespace OperandKind

inductive Includes (specials : SpecialNames) : OperandKind → Operand → Prop where
  | general (number : Nat) : Includes specials .general (.register (.general number))
  | floating (number : Nat) : Includes specials .floating (.register (.floating number))
  | vector (number : Nat) : Includes specials .vector (.register (.vector number))
  | condition (number : Nat) : Includes specials .condition (.register (.condition number))
  | named {number : Nat} {name : String} (named : specials.name? number = some name) :
      Includes specials .special (.register (.special number (some name)))
  | unnamed (number : BitVec 32) : Includes specials .special (.immediate (.unsigned32 number))
  | unsigned8 (value : BitVec 8) : Includes specials .unsigned8 (.immediate (.unsigned8 value))
  | signed16 (value : BitVec 16) : Includes specials .signed16 (.immediate (.signed16 value))
  | unsigned16 (value : BitVec 16) :
      Includes specials .unsigned16 (.immediate (.unsigned16 value))
  | signed32 (value : BitVec 32) : Includes specials .signed32 (.immediate (.signed32 value))
  | unsigned32 (value : BitVec 32) :
      Includes specials .unsigned32 (.immediate (.unsigned32 value))
  | memory (base : Nat) (displacement : BitVec 16) :
      Includes specials .memory (.memory (.general base) displacement)
  | target (address : Address) : Includes specials .target (.target address)

end OperandKind

namespace DecodeStep

def operandKind? : DecodeStep → Option OperandKind
  | .general _ => some .general
  | .floating _ => some .floating
  | .floatingPair _ => some .floating
  | .vector _ => some .vector
  | .vectorTarget128 => some .vector
  | .vectorFirst128 => some .vector
  | .vectorSecond128 => some .vector
  | .vectorControl128 => some .vector
  | .condition _ => some .condition
  | .comparisonResult => some .condition
  | .special => some .special
  | .signed16 => some .signed16
  | .unsigned16 => some .unsigned16
  | .unsigned5 _ => some .unsigned8
  | .unsignedField _ => some .unsigned8
  | .conditionMask => some .unsigned8
  | .signedField _ => some .signed32
  | .signedFields _ => some .signed32
  | .unsignedFields fields =>
      some (if Field.totalLength fields ≤ 8 then .unsigned8 else .unsigned32)
  | .memory _ => some .memory
  | .alignedMemory => some .memory
  | .selectedMemory _ => some .memory
  | .target _ => some .target
  | .recordFlag => none
  | .recordFlag6 => none
  | .recordFlag10 => none
  | .alwaysRecords => none
  | .only64 => none

theorem includes_specialOperand (registers : RegisterCatalog) (number : Nat) :
    OperandKind.special.Includes registers.specials (specialOperand registers number) := by
  unfold specialOperand RegisterCatalog.special?
  cases named : registers.specials.name? number with
  | some name => exact .named named
  | none => exact .unnamed _

theorem includes_of_evaluate {site : DecodeSite} {word : Word} {step : DecodeStep}
    {contribution : Contribution} (read : step.evaluate site word = some contribution) :
    Option.Rel (OperandKind.Includes site.registers.specials) step.operandKind?
      contribution.operand? := by
  cases step with
  | floatingPair _ | alignedMemory =>
      rcases Option.ite_none_right_eq_some.mp read with ⟨_, contributed⟩
      cases contributed
      exact .some (by constructor)
  | only64 =>
      rcases Option.ite_none_right_eq_some.mp read with ⟨_, contributed⟩
      cases contributed
      exact .none
  | special =>
      cases read
      exact .some (includes_specialOperand site.registers _)
  | unsignedFields fields =>
      cases read
      refine .some ?_
      unfold unsignedOperand
      split <;> constructor
  | recordFlag | recordFlag6 | recordFlag10 | alwaysRecords =>
      cases read
      exact .none
  | _ =>
      cases read
      exact .some (by constructor)

end DecodeStep

theorem StepsRead.includes {site : DecodeSite} {word : Word} {steps : List DecodeStep}
    {contributions : List Contribution} (read : StepsRead site word steps contributions) :
    List.Forall₂ (OperandKind.Includes site.registers.specials)
      (steps.filterMap DecodeStep.operandKind?)
      (contributions.filterMap Contribution.operand?) :=
  List.rel_filterMap (fun _ _ head => DecodeStep.includes_of_evaluate head) read

/-! ## Texts -/

theorem Register.isAlphanumeric_text {register : Register}
    (unnamed : register.name = none) : IsAlphanumeric register.text := by
  cases register with
  | special number name =>
      cases unnamed
      exact .append (by decide) (Numeral.isAlphanumeric_decimal number)
  | _ => exact .append (by decide) (Numeral.isAlphanumeric_decimal _)

namespace OperandKind.Includes

variable {specials : SpecialNames} {kind : OperandKind} {left right : Operand}

/-- No text of an operand has a comma, which stands between the operands. -/
theorem comma_notMem (clear : specials.Unambiguous) (included : kind.Includes specials left) :
    ',' ∉ left.text.toList := by
  cases included with
  | general | floating | vector | condition =>
      exact (Register.isAlphanumeric_text rfl).notMem rfl
  | named named => exact (clear.isAlphanumeric _ (clear.mem_entries named)).notMem rfl
  | unnamed | unsigned16 | unsigned32 =>
      exact (IsAlphanumeric.append (by decide) (Numeral.isAlphanumeric_upperHex 0 _)).notMem rfl
  | unsigned8 value => exact (Numeral.isAlphanumeric_decimal _).notMem rfl
  | signed16 | signed32 => exact Numeral.notMem_signed rfl (by decide)
  | memory base displacement =>
      have inBase : ',' ∉ (Register.general base).text.toList :=
        (Register.isAlphanumeric_text rfl).notMem rfl
      have inDisplacement : ',' ∉ (Numeral.signed displacement.toInt).toList :=
        Numeral.notMem_signed rfl (by decide)
      simp [Operand.text, inBase, inDisplacement]
  | target address =>
      exact (IsAlphanumeric.append (by decide) address.isAlphanumeric_text).notMem rfl

theorem memory_text_inj {leftBase rightBase : Nat} {left right : BitVec 16}
    (same : (Operand.memory (.general leftBase) left).text =
      (Operand.memory (.general rightBase) right).text) :
    leftBase = rightBase ∧ left = right := by
  have inBase : '(' ∉ (Register.general leftBase).text.toList :=
    (Register.isAlphanumeric_text rfl).notMem rfl
  have behind : '(' ∉ (Register.general leftBase).text.toList ++ [')'] := by
    simp [inBase]
  have before : '(' ∉ (Numeral.signed left.toInt).toList := Numeral.notMem_signed rfl (by decide)
  have characters := congrArg String.toList same
  simp only [Operand.text, String.toList_append, List.append_assoc] at characters
  rcases (List.append_cons_inj_of_notMem before behind).mp characters with
    ⟨displacements, _, bases⟩
  have base := String.toList_inj.mp (List.append_cancel_right bases)
  exact ⟨Numeral.decimal_injective ((String.append_right_inj "r").mp base),
    BitVec.eq_of_toInt_eq (Numeral.signed_injective (String.toList_inj.mp displacements))⟩

theorem eq_of_text_eq (clear : specials.Unambiguous) (leftIncluded : kind.Includes specials left)
    (rightIncluded : kind.Includes specials right) (same : left.text = right.text) :
    left = right := by
  cases leftIncluded with
  | general number =>
      cases rightIncluded
      rw [Numeral.decimal_injective ((String.append_right_inj "r").mp same)]
  | floating number =>
      cases rightIncluded
      rw [Numeral.decimal_injective ((String.append_right_inj "f").mp same)]
  | vector number =>
      cases rightIncluded
      rw [Numeral.decimal_injective ((String.append_right_inj "v").mp same)]
  | condition number =>
      cases rightIncluded
      rw [Numeral.decimal_injective ((String.append_right_inj "cr").mp same)]
  | named leftNamed =>
      cases rightIncluded with
      | named rightNamed =>
          cases same
          rw [clear.number_eq leftNamed rightNamed]
      | unnamed number => exact absurd same (clear.name_ne_marked leftNamed _)
  | unnamed number =>
      cases rightIncluded with
      | named rightNamed => exact absurd same.symm (clear.name_ne_marked rightNamed _)
      | unnamed other => rw [Numeral.marked_bits_inj (by decide) same]
  | unsigned8 value =>
      cases rightIncluded
      rw [BitVec.eq_of_toNat_eq (Numeral.decimal_injective same)]
  | signed16 value =>
      cases rightIncluded
      rw [BitVec.eq_of_toInt_eq (Numeral.signed_injective same)]
  | unsigned16 value =>
      cases rightIncluded
      rw [Numeral.marked_bits_inj (by decide) same]
  | signed32 value =>
      cases rightIncluded
      rw [BitVec.eq_of_toInt_eq (Numeral.signed_injective same)]
  | unsigned32 value =>
      cases rightIncluded
      rw [Numeral.marked_bits_inj (by decide) same]
  | memory base displacement =>
      cases rightIncluded
      rcases memory_text_inj same with ⟨bases, displacements⟩
      rw [bases, displacements]
  | target address =>
      cases rightIncluded
      rw [Address.markedText_injective same]

end OperandKind.Includes

end PowerDisasm
