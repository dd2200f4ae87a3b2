import PowerDisasm.Processor
import PowerDisasm.Proofs.IndependentSteps
import PowerDisasm.Proofs.TableEncodings

/-! # Words of an encoding

An encoding of a form fixes some bits of a word, and the steps of the form read
some. Where the two have no bit in common, or agree on it, what the steps read
from any word they read from a word of the encoding too, and the record of that
word shows it. -/

namespace PowerDisasm

def Model.site (model : Model) (address : Address) : DecodeSite :=
  ⟨address, model.wordWidth, .ofModel model⟩

/-! ## Steps and addresses -/

namespace DecodeStep

/-- Only the target of a branch depends on where the word is. -/
def usesAddress : DecodeStep → Bool
  | .target _ => true
  | _ => false

theorem evaluate_site {step : DecodeStep} (free : step.usesAddress = false) (model : Model)
    (left right : Address) (word : Word) :
    step.evaluate (model.site left) word = step.evaluate (model.site right) word := by
  cases step with
  | target field => cases free
  | _ => rfl

end DecodeStep

theorem StepsRead.at {model : Model} {left : Address} {word : Word} {steps : List DecodeStep}
    {contributions : List Contribution} (right : Address)
    (free : ∀ step ∈ steps, step.usesAddress = false)
    (read : StepsRead (model.site left) word steps contributions) :
    StepsRead (model.site right) word steps contributions := by
  induction read with
  | nil => exact .nil
  | cons head _ induction =>
      refine .cons ?_ (induction fun step member => free step (List.mem_cons_of_mem _ member))
      rw [DecodeStep.evaluate_site (free _ List.mem_cons_self) model right left]
      exact head

/-! ## Bits with two uses -/

/-- The bits that lead to the form of an encoding and are read by its steps too. -/
def sharedBits (encoding : Encoding InstructionForm) : Word :=
  encoding.pattern.mask &&& DecodeStep.allBitsRead encoding.form.steps

theorem getLsbD_mask_of_sharedBits {encoding : Encoding InstructionForm} {index : Nat}
    (shared : (sharedBits encoding).getLsbD index = true) :
    encoding.pattern.mask.getLsbD index = true := by
  rw [sharedBits, BitVec.getLsbD_and, Bool.and_eq_true] at shared
  exact shared.1

theorem agreeOn_value_of_matches {pattern : Pattern} {word : Word}
    (holds : pattern.Matches word) : AgreeOn pattern.mask word pattern.value := by
  have proper : pattern.value &&& pattern.mask = pattern.value := by
    rw [← holds, BitVec.and_assoc, BitVec.and_self]
  exact Eq.trans holds proper.symm

theorem StepsRead.exists_reaching {model : Model} {encoding : Encoding InstructionForm}
    (inTable : encoding ∈ model.tree.encodings) {site : DecodeSite} {word : Word}
    {contributions : List Contribution}
    (read : StepsRead site word encoding.form.steps contributions)
    (agree : AgreeOn (sharedBits encoding) word encoding.pattern.value) :
    ∃ reaching, model.tree.reach reaching = .form encoding.form ∧
      StepsRead site reaching encoding.form.steps contributions := by
  have proper := DecodeTree.proper_of_mem_encodings model.tree_entriesOnly inTable
  rcases read.exists_matching proper agree with ⟨matching, holds, matchingRead⟩
  exact ⟨matching, Model.reach_tree_eq_form_iff.mpr ⟨_, holds, inTable⟩, matchingRead⟩

/-! ## Records -/

namespace Instruction

structure Shows (record : Instruction) (form : InstructionForm)
    (contributions : List Contribution) : Prop where
  mnemonic : record.mnemonic = form.mnemonic
  operands : record.operands = contributions.filterMap Contribution.operand?
  setsCr0 : record.setsCr0 = (contributions.filterMap Contribution.flag?).getLast?.getD false

theorem shows_markZero_iff {record : Instruction} {form : InstructionForm}
    {contributions : List Contribution} (word : Word) :
    (DecodeState.markZero word record).Shows form contributions ↔
      record.Shows form contributions := by
  rw [DecodeState.markZero_eq]
  exact ⟨fun ⟨mnemonic, operands, flag⟩ => ⟨mnemonic, operands, flag⟩,
    fun ⟨mnemonic, operands, flag⟩ => ⟨mnemonic, operands, flag⟩⟩

end Instruction

namespace Processor

theorem decode_accepted {model : Model} {word : Word} {form : InstructionForm}
    {contributions : List Contribution} {address : Address}
    (reached : model.tree.reach word = .form form)
    (read : StepsRead (model.site address) word form.steps contributions) (order : ByteOrder) :
    ((Processor.mk model order).decode word address).instruction =
      DecodeState.markZero word (DecodeState.acceptedRecord form contributions address) := by
  have decoded : (Processor.mk model order).decode word address = _ :=
    congrArg Prod.fst (DecodeState.decode_of_stepsRead reached read)
  rw [decoded]

theorem decode_shows {model : Model} {word : Word} {form : InstructionForm}
    {contributions : List Contribution} {address : Address}
    (reached : model.tree.reach word = .form form)
    (read : StepsRead (model.site address) word form.steps contributions) (order : ByteOrder) :
    ((Processor.mk model order).decode word address).instruction.Shows form contributions := by
  rw [decode_accepted reached read, Instruction.shows_markZero_iff]
  exact ⟨rfl, rfl, rfl⟩

end Processor

end PowerDisasm
