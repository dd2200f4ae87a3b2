import Mathlib.Algebra.Group.Int.Defs
import PowerDisasm.Proofs.ControlFlow
import PowerDisasm.Proofs.WordByWord

/-! # Targets of branches

A branch to a displacement has its distance in two's complement, in words, and
one bit that makes it absolute. The key of the branches and the step that reads
the target both look at this bit, and they agree on it, so the mnemonic tells
whether a target moves with the word or stays where it is. -/

namespace PowerDisasm

/-! ## Distances and addresses -/

namespace Field

theorem extractLsb'_eq (field : Field) (word : Word) :
    word.extractLsb' field.position field.length = (field.read word).setWidth field.length := by
  apply BitVec.eq_of_getLsbD_eq
  intro index inside
  rw [BitVec.getLsbD_extractLsb', BitVec.getLsbD_setWidth, getLsbD_read]
  simp [inside]

theorem toInt_readSigned (field : Field) (word : Word) :
    (field.readSigned word).toInt = (word.extractLsb' field.position field.length).toInt := by
  rw [readSigned, toInt_signExtend, Nat.min_eq_left field.length_le, extractLsb'_eq]

end Field

namespace Address

theorem toNat_offset (address : Address) (distance : Int) :
    ((address.offset distance).toNat : Int) = (address.toNat + distance) % 2 ^ 64 := by
  have sum : (address.offset distance).bits = BitVec.ofInt 64 (address.toNat + distance) := by
    rw [offset, BitVec.ofInt_add, BitVec.ofInt_natCast, toNat, BitVec.ofNat_toNat,
      BitVec.setWidth_eq]
  rw [toNat, sum, BitVec.toNat_ofInt, Int.toNat_of_nonneg (Int.emod_nonneg _ (by decide))]
  rfl

end Address

namespace DecodeStep

theorem toNat_branchTarget_wide {site : DecodeSite} (wide : site.wordWidth = .w64)
    (field : Field) (word : Word) :
    ((branchTarget site field word).toNat : Int) =
      (if word.getLsbD 1 then (field.readSigned word).toInt * 4
        else site.address.toNat + (field.readSigned word).toInt * 4) % 2 ^ 64 := by
  simp only [branchTarget, wide]
  split
  next =>
    rw [Address.toNat_offset, Address.toNat_ofNat, Nat.zero_mod, Int.natCast_zero,
      Int.zero_add]
  next => rw [Address.toNat_offset]

theorem toNat_branchTarget (model : Model) (address : Address) (field : Field) (word : Word) :
    ((branchTarget (model.site address) field word).toNat : Int) =
      (if word.getLsbD 1 then (field.readSigned word).toInt * 4
        else address.toNat + (field.readSigned word).toInt * 4) % 2 ^ model.wordWidth.bits := by
  cases model with
  | ppc32 =>
      rw [branchTarget_widens .wide, Int.natCast_emod, toNat_branchTarget_wide rfl]
      exact Int.emod_emod_of_dvd _ (by decide)
  | ppc64 => exact toNat_branchTarget_wide rfl field word
  | xenon => exact toNat_branchTarget_wide rfl field word

end DecodeStep

/-! ## Forms -/

namespace Table.Branch

def absolutes : List Mnemonic := [.ba, .bla, .bca, .bcla]

def stepsOf (condition : List Nat) (field : Field) : List DecodeStep :=
  condition.map .unsigned5 ++ [.target field]

/-- Each entry reads its target from the field, and the second bit of its key is
set exactly if its mnemonic has an absolute target. -/
structure TargetsAt (tree : InstructionTree) (condition : List Nat) (field : Field) : Prop where
  isNode : tree.nodeKey? = some [variant]
  forms : ∀ value < 4, ∃ form, tree.branchAt value = .form form ∧
    form.steps = stepsOf condition field ∧
    (form.mnemonic ∈ absolutes ↔ value.testBit 1 = true)

theorem unconditional_targetsAt : TargetsAt unconditional [] (.span 2 24) where
  isNode := rfl
  forms
    | 0, _ | 1, _ | 2, _ | 3, _ => ⟨_, rfl, rfl, by decide⟩

theorem onCondition_targetsAt : TargetsAt onCondition [21, 16] (.span 2 14) where
  isNode := rfl
  forms
    | 0, _ | 1, _ | 2, _ | 3, _ => ⟨_, rfl, rfl, by decide⟩

theorem TargetsAt.reach {tree : InstructionTree} {condition : List Nat} {field : Field}
    (targets : TargetsAt tree condition field) (word : Word) :
    ∃ form, tree.reach word = .form form ∧ form.steps = stepsOf condition field ∧
      (form.mnemonic ∈ absolutes ↔ word.getLsbD 1 = true) := by
  have bound : (variant.read word).toNat < 4 := by
    have gathered := Field.toNat_gather_lt [variant] word
    rwa [Field.gather_single] at gathered
  rcases targets.forms _ bound with ⟨form, isForm, steps, absolute⟩
  have second : (variant.read word).getLsbD 1 = word.getLsbD 1 := by
    rw [Field.getLsbD_read]
    rfl
  refine ⟨form, ?_, steps, ?_⟩
  · rw [DecodeTree.reach_of_read targets.isNode rfl isForm]
    rfl
  · rw [absolute, ← second]
    rfl

/-- The distance that a branch has in its word: bits 2 to 25 under opcode 18 and
bits 2 to 15 under opcode 16, as a number of words. -/
def displacement (word : Word) : Int :=
  if primaryOpcode.read word = 18 then (word.extractLsb 25 2).toInt * 4
  else (word.extractLsb 15 2).toInt * 4

end Table.Branch

namespace Model

/-- A word that moves around the end of the address space moves its addresses
around the end of the model's. -/
theorem emod_offset (model : Model) (address : Address) (distance further : Int) :
    ((address.offset distance).toNat + further) % 2 ^ model.wordWidth.bits =
      ((address.toNat + further) % 2 ^ model.wordWidth.bits + distance) %
        2 ^ model.wordWidth.bits := by
  have divides : (2 : Int) ^ model.wordWidth.bits ∣ 2 ^ 64 := by cases model <;> decide
  rw [Address.toNat_offset, Int.emod_add_emod, ← Int.emod_emod_of_dvd _ divides,
    Int.emod_add_emod, Int.emod_emod_of_dvd _ divides, Int.add_right_comm]

open Table Table.Branch in
theorem reach_displacement (model : Model) {word : Word}
    (isBranch : primaryOpcode.read word = 16 ∨ primaryOpcode.read word = 18) :
    ∃ form condition field, model.tree.reach word = .form form ∧
      form.steps = stepsOf condition field ∧
      (form.mnemonic ∈ absolutes ↔ word.getLsbD 1 = true) ∧
      (field.readSigned word).toInt * 4 = displacement word := by
  have isNode : model.tree.nodeKey? = some [primaryOpcode] := by cases model <;> rfl
  rcases model.branchAt_opcode with ⟨onCondition, unconditional, _⟩
  rcases isBranch with opcode | opcode
  · rcases onCondition_targetsAt.reach word with ⟨form, reached, steps, absolute⟩
    refine ⟨form, _, _, ?_, steps, absolute, ?_⟩
    · rw [DecodeTree.reach_of_read isNode opcode onCondition]
      exact reached
    · rw [displacement, opcode, if_neg (by decide), Field.toInt_readSigned]
      rfl
  · rcases unconditional_targetsAt.reach word with ⟨form, reached, steps, absolute⟩
    refine ⟨form, _, _, ?_, steps, absolute, ?_⟩
    · rw [DecodeTree.reach_of_read isNode opcode unconditional]
      exact reached
    · rw [displacement, if_pos opcode, Field.toInt_readSigned]
      rfl

end Model

/-! ## Records -/

def Operand.target? : Operand → Option Address
  | .target address => some address
  | _ => none

def Instruction.targets (record : Instruction) : List Address :=
  record.operands.filterMap Operand.target?

open Table.Branch in
theorem stepsRead_stepsOf (site : DecodeSite) (word : Word) (condition : List Nat)
    (field : Field) :
    ∃ contributions, StepsRead site word (stepsOf condition field) contributions ∧
      (contributions.filterMap Contribution.operand?).filterMap Operand.target? =
        [DecodeStep.branchTarget site field word] := by
  induction condition with
  | nil => exact ⟨_, .cons rfl .nil, rfl⟩
  | cons offset rest induction =>
      rcases induction with ⟨contributions, read, target⟩
      exact ⟨_, .cons rfl read, target⟩

namespace Processor

open Table Table.Branch in
theorem exists_target (model : Model) (order : ByteOrder) {word : Word}
    (isBranch : primaryOpcode.read word = 16 ∨ primaryOpcode.read word = 18)
    (address : Address) :
    let record := ((Processor.mk model order).decode word address).instruction
    ∃ target, record.targets = [target] ∧
      (target.toNat : Int) =
        (if word.getLsbD 1 then displacement word else address.toNat + displacement word) %
          2 ^ model.wordWidth.bits ∧
      (record.mnemonic ∈ absolutes ↔ word.getLsbD 1 = true) := by
  intro record
  rcases model.reach_displacement isBranch with
    ⟨form, condition, field, reached, steps, absolute, distance⟩
  rcases stepsRead_stepsOf (model.site address) word condition field with
    ⟨contributions, read, target⟩
  rw [← steps] at read
  have shows : record.Shows form contributions := decode_shows reached read order
  refine ⟨DecodeStep.branchTarget (model.site address) field word, ?_, ?_, ?_⟩
  · rw [Instruction.targets, shows.operands, target]
  · rw [DecodeStep.toNat_branchTarget, distance]
  · rw [shows.mnemonic, absolute]

open Table Table.Branch in
/-- The only target of a branch is the distance in its word, from zero if bit 1
is set and from the address of the word otherwise. Where the word moves, a
relative target moves with it, and an absolute one does not. -/
theorem branch_target_exact (model : Model) (order : ByteOrder) (word : Word)
    (isBranch : primaryOpcode.read word = 16 ∨ primaryOpcode.read word = 18)
    (address : Address) :
    let record (place : Address) := ((Processor.mk model order).decode word place).instruction
    ∃ target, (record address).targets = [target] ∧
      (target.toNat : Int) =
        (if word.getLsbD 1 then displacement word else address.toNat + displacement word) %
          2 ^ model.wordWidth.bits ∧
      ((record address).mnemonic ∈ absolutes ↔ word.getLsbD 1 = true) ∧
      ∀ distance, ∃ moved, (record (address.offset distance)).targets = [moved] ∧
        if word.getLsbD 1 then moved = target
        else (moved.toNat : Int) = (target.toNat + distance) % 2 ^ model.wordWidth.bits := by
  intro record
  rcases exists_target model order isBranch address with ⟨target, only, destination, absolute⟩
  refine ⟨target, only, destination, absolute, ?_⟩
  intro distance
  rcases exists_target model order isBranch (address.offset distance) with
    ⟨moved, movedOnly, movedDestination, _⟩
  refine ⟨moved, movedOnly, ?_⟩
  split
  next isAbsolute =>
    rw [if_pos isAbsolute] at destination movedDestination
    have same : moved.toNat = target.toNat :=
      Int.natCast_inj.mp (movedDestination.trans destination.symm)
    exact congrArg Address.mk (BitVec.eq_of_toNat_eq same)
  next isRelative =>
    rw [if_neg isRelative] at destination movedDestination
    rw [movedDestination, destination]
    exact model.emod_offset address distance _

/-- A call backwards at the start of the address space goes to its end. -/
theorem branch_target_exact_backwardCall :
    let record (place : Address) := ((Processor.mk .ppc32 .big).decode 0x4BFFFFFD place).instruction
    Table.primaryOpcode.read 0x4BFFFFFD = 18 ∧
      (record (.ofNat 0)).targets = [.ofNat 0xFFFFFFFC] ∧
      ∀ distance, ∃ moved, (record (Address.offset (.ofNat 0) distance)).targets = [moved] ∧
        (moved.toNat : Int) = (0xFFFFFFFC + distance) % 2 ^ 32 := by
  intro record
  have isBranch : Table.primaryOpcode.read 0x4BFFFFFD = 18 := by decide
  rcases branch_target_exact .ppc32 .big 0x4BFFFFFD (.inr isBranch) (.ofNat 0) with
    ⟨target, only, destination, _, moves⟩
  have isLast : target = .ofNat 0xFFFFFFFC := by
    apply congrArg Address.mk
    apply BitVec.eq_of_toNat_eq
    exact Int.natCast_inj.mp destination
  subst isLast
  exact ⟨isBranch, only, moves⟩

end Processor

end PowerDisasm
