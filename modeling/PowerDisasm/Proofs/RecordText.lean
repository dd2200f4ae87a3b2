import Mathlib.Data.List.Pairwise
import PowerDisasm.Proofs.MnemonicNames
import PowerDisasm.Proofs.ModelExtension
import PowerDisasm.Proofs.OperandText

/-! # Records and their text

The text of a record is taken apart at the first dot or tab and at the commas
behind it. The mnemonic in front tells the tags and the kinds of the operands,
because forms of one mnemonic agree on both, so the text of an accepted word
tells its whole record. -/

namespace PowerDisasm

/-! ## Forms of one mnemonic -/

namespace InstructionForm

def operandKinds (form : InstructionForm) : List OperandKind :=
  form.steps.filterMap DecodeStep.operandKind?

/-- If the forms have the same mnemonic, it stands for the same tags and the
same kinds of operands in both. -/
def Alike (left right : InstructionForm) : Prop :=
  left.mnemonic = right.mnemonic →
    left.tags = right.tags ∧ left.operandKinds = right.operandKinds

instance : DecidableRel Alike :=
  fun _ _ => inferInstanceAs (Decidable (_ → _))

theorem alike_refl (form : InstructionForm) : form.Alike form :=
  fun _ => ⟨rfl, rfl⟩

instance : Std.Symm Alike where
  symm _ _ alike same := (alike same.symm).imp Eq.symm Eq.symm

end InstructionForm

namespace Table

-- Forms are compared only within a class, so that few pairs are left to compare.
theorem withVector128_alike_in_class :
    ∀ residue < 32, (withVector128.forms.filter fun form =>
      Nat.beq (form.mnemonic.ctorIdx % 32) residue).Pairwise InstructionForm.Alike := by
  decide +kernel

theorem withVector128_alike :
    ∀ left ∈ withVector128.forms, ∀ right ∈ withVector128.forms, left.Alike right := by
  intro left leftMember right rightMember same
  have inClass {form : InstructionForm} (member : form ∈ withVector128.forms)
      (isLeft : left.mnemonic = form.mnemonic) :
      form ∈ withVector128.forms.filter fun form =>
        Nat.beq (form.mnemonic.ctorIdx % 32) (left.mnemonic.ctorIdx % 32) :=
    List.mem_filter.mpr ⟨member, Nat.beq_eq.mpr (by rw [isLeft])⟩
  have alike := withVector128_alike_in_class (left.mnemonic.ctorIdx % 32)
    (Nat.mod_lt _ (by decide))
  have anyTwo := alike.forall_of_forall fun form _ => form.alike_refl
  exact anyTwo (inClass leftMember rfl) (inClass rightMember same) same

theorem withVector128_reach_zero : withVector128.reach 0 = .unmapped := by
  decide +kernel

theorem withVector128_mnemonic_ne_illegal :
    ∀ form ∈ withVector128.forms, form.mnemonic ≠ .illegal := by
  decide +kernel

end Table

namespace Model

theorem reach_xenon {model : Model} {word : Word} {form : InstructionForm}
    (reached : model.tree.reach word = .form form) : xenon.tree.reach word = .form form := by
  cases model with
  | ppc32 => exact ExtendedBy.vector128.reach (ExtendedBy.wide.reach reached)
  | ppc64 => exact ExtendedBy.vector128.reach reached
  | xenon => exact reached

theorem forms_alike {model : Model} {left right : Word} {leftForm rightForm : InstructionForm}
    (leftReached : model.tree.reach left = .form leftForm)
    (rightReached : model.tree.reach right = .form rightForm) : leftForm.Alike rightForm :=
  Table.withVector128_alike _ (DecodeTree.mem_forms_of_reach (reach_xenon leftReached))
    _ (DecodeTree.mem_forms_of_reach (reach_xenon rightReached))

theorem mnemonic_ne_illegal {model : Model} {word : Word} {form : InstructionForm}
    (reached : model.tree.reach word = .form form) : form.mnemonic ≠ .illegal :=
  Table.withVector128_mnemonic_ne_illegal form
    (DecodeTree.mem_forms_of_reach (reach_xenon reached))

theorem word_ne_zero {model : Model} {word : Word} {form : InstructionForm}
    (reached : model.tree.reach word = .form form) : word ≠ 0 := by
  rintro rfl
  have found := reach_xenon reached
  rw [show xenon.tree.reach 0 = .unmapped from Table.withVector128_reach_zero] at found
  cases found

end Model

/-! ## The parts of a text -/

namespace Operand

def listText : List Operand → List Char
  | [] => []
  | head :: rest => '\t' :: [','].intercalate (((head :: rest).map text).map String.toList)

theorem splitOn_listText {operands : List Operand} (some : operands ≠ [])
    (plain : ∀ operand ∈ operands, ',' ∉ operand.text.toList) :
    (listText operands).tail.splitOn ',' = (operands.map text).map String.toList := by
  cases operands with
  | nil => cases some rfl
  | cons head rest =>
      apply List.splitOn_intercalate
      · simpa using plain
      · exact List.cons_ne_nil _ _

theorem listText_inj {left right : List Operand}
    (leftPlain : ∀ operand ∈ left, ',' ∉ operand.text.toList)
    (rightPlain : ∀ operand ∈ right, ',' ∉ operand.text.toList)
    (same : listText left = listText right) : left.map text = right.map text := by
  cases left with
  | nil =>
      cases right with
      | nil => rfl
      | cons head rest => cases same
  | cons leftHead leftRest =>
      cases right with
      | nil => cases same
      | cons head rest =>
          have texts := splitOn_listText (List.cons_ne_nil _ _) leftPlain
          rw [same, splitOn_listText (List.cons_ne_nil _ _) rightPlain] at texts
          exact List.map_injective_iff.mpr (fun _ _ => String.toList_injective) texts.symm

theorem eq_of_map_text_eq {specials : SpecialNames} (clear : specials.Unambiguous)
    {kinds : List OperandKind} {left right : List Operand}
    (leftIncluded : List.Forall₂ (OperandKind.Includes specials) kinds left)
    (rightIncluded : List.Forall₂ (OperandKind.Includes specials) kinds right)
    (same : left.map text = right.map text) : left = right := by
  induction leftIncluded generalizing right with
  | nil =>
      cases rightIncluded
      rfl
  | cons leftHead _ induction =>
      cases rightIncluded with
      | cons rightHead rightRest =>
          rcases List.cons.inj same with ⟨heads, rests⟩
          rw [leftHead.eq_of_text_eq clear rightHead heads, induction rightRest rests]

theorem comma_notMem_of_includes {specials : SpecialNames} (clear : specials.Unambiguous)
    {kinds : List OperandKind} {operands : List Operand}
    (included : List.Forall₂ (OperandKind.Includes specials) kinds operands) :
    ∀ operand ∈ operands, ',' ∉ operand.text.toList := by
  induction included with
  | nil => exact fun _ member => absurd member List.not_mem_nil
  | cons head _ induction => exact List.forall_mem_cons.mpr ⟨head.comma_notMem clear, induction⟩

end Operand

namespace Instruction

def afterName (record : Instruction) : List Char :=
  (if record.setsCr0 then ['.'] else []) ++ Operand.listText record.operands

theorem text_toList (record : Instruction) :
    record.text.toList = record.mnemonic.name.toList ++ record.afterName := by
  have dot : (if record.setsCr0 then "." else "").toList =
      if record.setsCr0 then ['.'] else [] := by
    split <;> rfl
  unfold text afterName
  cases record.operands with
  | nil =>
      dsimp only
      rw [String.toList_append, dot, Operand.listText, List.append_nil]
  | cons head rest =>
      dsimp only
      rw [String.toList_append, String.toList_append, String.toList_append, dot,
        String.toList_intercalate, Operand.listText, List.append_assoc, List.append_assoc]
      rfl

theorem takeWhile_afterName (record : Instruction) :
    record.afterName.takeWhile (fun character => 48 ≤ character.toNat) = [] := by
  unfold afterName
  cases record.setsCr0 with
  | true => rfl
  | false =>
      cases record.operands with
      | nil => rfl
      | cons head rest => rfl

/-- The name ends at the first character below the digits. -/
theorem takeWhile_text (record : Instruction) :
    record.text.toList.takeWhile (fun character => 48 ≤ character.toNat) =
      record.mnemonic.name.toList := by
  rw [text_toList, List.takeWhile_append_of_pos, takeWhile_afterName, List.append_nil]
  intro character member
  exact decide_eq_true (Mnemonic.digits_le_of_mem_name member)

theorem head?_afterName (record : Instruction) :
    record.afterName.head? = some '.' ↔ record.setsCr0 = true := by
  unfold afterName
  cases record.setsCr0 with
  | true => exact iff_of_true rfl rfl
  | false =>
      refine iff_of_false ?_ Bool.false_ne_true
      cases record.operands with
      | nil => exact fun equal => nomatch equal
      | cons head rest => exact fun equal => absurd (Option.some.inj equal) (by decide)

theorem parts_eq_of_text_eq {left right : Instruction} (same : left.text = right.text) :
    left.mnemonic = right.mnemonic ∧ left.setsCr0 = right.setsCr0 ∧
      Operand.listText left.operands = Operand.listText right.operands := by
  have names : left.mnemonic.name = right.mnemonic.name := by
    rw [← String.toList_inj, ← takeWhile_text, same, takeWhile_text]
  have mnemonics := Mnemonic.name_injective names
  have characters := congrArg String.toList same
  rw [text_toList, text_toList, mnemonics] at characters
  have behind := List.append_cancel_left characters
  have flags : left.setsCr0 = right.setsCr0 := by
    rw [Bool.eq_iff_iff, ← head?_afterName, behind, head?_afterName]
  rw [afterName, afterName, flags] at behind
  exact ⟨mnemonics, flags, List.append_cancel_left behind⟩

end Instruction

/-! ## Records of accepted words -/

open DecodeState in
theorem acceptedRecord_eq_of_text_eq {model : Model} {address : Address} {left right : Word}
    {leftForm rightForm : InstructionForm} (alike : leftForm.Alike rightForm)
    {leftRead rightRead : List Contribution}
    (leftSteps : StepsRead (model.site address) left leftForm.steps leftRead)
    (rightSteps : StepsRead (model.site address) right rightForm.steps rightRead)
    (same : (acceptedRecord leftForm leftRead address).text =
      (acceptedRecord rightForm rightRead address).text) :
    acceptedRecord leftForm leftRead address = acceptedRecord rightForm rightRead address := by
  rcases Instruction.parts_eq_of_text_eq same with ⟨mnemonics, flags, lists⟩
  rcases alike mnemonics with ⟨tags, kinds⟩
  have clear := model.specials_unambiguous
  have leftIncluded := leftSteps.includes
  have rightIncluded := rightSteps.includes
  rw [← InstructionForm.operandKinds, ← kinds] at rightIncluded
  have texts := Operand.listText_inj (Operand.comma_notMem_of_includes clear leftIncluded)
    (Operand.comma_notMem_of_includes clear rightIncluded) lists
  have operands := Operand.eq_of_map_text_eq clear leftIncluded rightIncluded texts
  exact (Instruction.mk.injEq ..).mpr ⟨mnemonics, tags, rfl, rfl, operands, flags⟩

namespace Processor

/-- No two records of accepted words at an address have the same text. -/
theorem record_eq_of_text_eq (model : Model) (order : ByteOrder) (address : Address)
    (left right : Word)
    (leftValid : ((Processor.mk model order).decode left address).instruction.isValid = true)
    (rightValid : ((Processor.mk model order).decode right address).instruction.isValid = true)
    (same : ((Processor.mk model order).decode left address).instruction.text =
      ((Processor.mk model order).decode right address).instruction.text) :
    ((Processor.mk model order).decode left address).instruction =
      ((Processor.mk model order).decode right address).instruction := by
  rcases exists_accepted_of_valid leftValid with ⟨leftForm, leftRead, leftReached, leftSteps, isLeft⟩
  rcases exists_accepted_of_valid rightValid with
    ⟨rightForm, rightRead, rightReached, rightSteps, isRight⟩
  rw [isLeft, isRight, DecodeState.markZero, DecodeState.markZero,
    if_neg (Model.word_ne_zero leftReached), if_neg (Model.word_ne_zero rightReached)] at same ⊢
  exact acceptedRecord_eq_of_text_eq (Model.forms_alike leftReached rightReached) leftSteps
    rightSteps same

/-- Two words that move the link register, one of them with an unused bit set. -/
theorem record_eq_of_text_eq_unusedBit :
    let record (word : Word) :=
      ((Processor.mk .xenon .big).decode word (.ofNat 0x82000000)).instruction
    (record 0x7C6802A6).isValid = true ∧ (record 0x7C6802A7).isValid = true ∧
      (record 0x7C6802A6).text = (record 0x7C6802A7).text ∧
      record 0x7C6802A6 = record 0x7C6802A7 := by
  intro record
  have valid : (record 0x7C6802A6).isValid = true := by decide +kernel
  have otherValid : (record 0x7C6802A7).isValid = true := by decide +kernel
  have same : (record 0x7C6802A6).text = (record 0x7C6802A7).text := by decide +kernel
  exact ⟨valid, otherValid, same, record_eq_of_text_eq .xenon .big (.ofNat 0x82000000)
    0x7C6802A6 0x7C6802A7 valid otherValid same⟩

end Processor

end PowerDisasm
