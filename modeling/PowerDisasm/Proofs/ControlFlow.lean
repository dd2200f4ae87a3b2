import PowerDisasm.Proofs.RecordText

/-! # Records and the flow of control

The tags of a record say whether control goes on or elsewhere, and its last
operand says where to if the encoding tells. No form says one thing by its tags
and another by its operands, and no record is both of an instruction and
illegal, so the flow of control can be recovered from records alone. -/

namespace PowerDisasm

/-! ## Targets among operands -/

namespace Operand

def isTarget : Operand → Bool
  | .target _ => true
  | _ => false

theorem isTarget_iff {operand : Operand} :
    operand.isTarget = true ↔ ∃ address, operand = .target address := by
  cases operand <;> simp [isTarget]

end Operand

namespace OperandKind

variable {specials : SpecialNames} {kinds : List OperandKind} {operands : List Operand}

theorem Includes.isTarget_eq {kind : OperandKind} {operand : Operand}
    (included : kind.Includes specials operand) :
    operand.isTarget = decide (kind = .target) := by
  cases included <;> rfl

theorem map_isTarget (included : List.Forall₂ (Includes specials) kinds operands) :
    operands.map Operand.isTarget = kinds.map fun kind => decide (kind = .target) := by
  induction included with
  | nil => rfl
  | cons head _ induction => rw [List.map_cons, List.map_cons, head.isTarget_eq, induction]

theorem exists_target_iff (included : List.Forall₂ (Includes specials) kinds operands) :
    (∃ address, Operand.target address ∈ operands) ↔ .target ∈ kinds := by
  have marks : true ∈ operands.map Operand.isTarget ↔ .target ∈ kinds := by
    simp [map_isTarget included]
  rw [← marks, List.mem_map]
  constructor
  · rintro ⟨address, member⟩
    exact ⟨_, member, rfl⟩
  · rintro ⟨operand, member, isTarget⟩
    rcases Operand.isTarget_iff.mp isTarget with ⟨address, rfl⟩
    exact ⟨address, member⟩

theorem target_notMem_dropLast (included : List.Forall₂ (Includes specials) kinds operands)
    (atEnd : .target ∉ kinds.dropLast) (address : Address) :
    .target address ∉ operands.dropLast := by
  intro member
  have marked : true ∈ operands.dropLast.map Operand.isTarget :=
    List.mem_map.mpr ⟨_, member, rfl⟩
  rw [List.map_dropLast, map_isTarget included, ← List.map_dropLast, List.mem_map] at marked
  rcases marked with ⟨kind, inFront, isTarget⟩
  exact atEnd (of_decide_eq_true isTarget ▸ inFront)

/-- If only the last of the kinds may be that of a target, then a target is the
last operand, and no other operand is one. -/
theorem eq_append_target (included : List.Forall₂ (Includes specials) kinds operands)
    (atEnd : .target ∉ kinds.dropLast) {address : Address} (member : .target address ∈ operands) :
    operands = operands.dropLast ++ [.target address] := by
  have whole := List.dropLast_append_getLast (List.ne_nil_of_mem member)
  rw [← whole, List.mem_append, List.mem_singleton] at member
  have isLast := member.resolve_left (target_notMem_dropLast included atEnd address)
  rw [isLast]
  exact whole.symm

end OperandKind

/-! ## Forms -/

/-- The tags of the form agree with each other and with the kinds of its
operands: the last one is a target, and no other, if control goes elsewhere but
neither back nor to an address in a register. -/
def InstructionForm.WellFormed (form : InstructionForm) : Prop :=
  form.tags.linear = !form.tags.transfer ∧ form.tags.zero = false ∧
    (form.tags.ret = true ∨ form.tags.indirect = true → form.tags.transfer = true) ∧
    .target ∉ form.operandKinds.dropLast ∧
    (.target ∈ form.operandKinds ↔
      form.tags.transfer = true ∧ form.tags.indirect = false ∧ form.tags.ret = false)

instance (form : InstructionForm) : Decidable form.WellFormed :=
  inferInstanceAs (Decidable (_ ∧ _ ∧ _ ∧ _ ∧ _))

namespace Table

theorem withVector128_forms_wellFormed :
    ∀ form ∈ withVector128.forms, form.WellFormed := by
  decide +kernel

end Table

theorem Model.form_wellFormed {model : Model} {word : Word} {form : InstructionForm}
    (reached : model.tree.reach word = .form form) : form.WellFormed :=
  Table.withVector128_forms_wellFormed form
    (DecodeTree.mem_forms_of_reach (reach_xenon reached))

/-! ## Branches -/

theorem DecodeTree.reach_of_read {Form : Type} {tree branch : DecodeTree Form} {key : Field}
    (isNode : tree.nodeKey? = some [key]) {word value : Word} (isRead : key.read word = value)
    (isBranch : tree.branchAt value.toNat = branch) : tree.reach word = branch.reach word := by
  rw [reach_node isNode, Field.gather_single, isRead, isBranch]

namespace Table

/-- The word is a branch to a displacement, to the link register or to the count
register. -/
def IsBranch (word : Word) : Prop :=
  primaryOpcode.read word = 16 ∨ primaryOpcode.read word = 18 ∨
    primaryOpcode.read word = 19 ∧
      (extendedOpcode.read word = 16 ∨ extendedOpcode.read word = 528)

structure CallsByLowBit (tree : InstructionTree) (key : Field) : Prop where
  isNode : tree.nodeKey? = some [key]
  position : key.position = 0
  forms : ∀ value < 2 ^ key.length, ∃ form, tree.branchAt value = .form form ∧
    form.tags.call = value.testBit 0 ∧ .only64 ∉ form.steps

theorem CallsByLowBit.reach {tree : InstructionTree} {key : Field}
    (calls : CallsByLowBit tree key) (word : Word) :
    ∃ form, tree.reach word = .form form ∧ form.tags.call = word.getLsbD 0 ∧
      .only64 ∉ form.steps := by
  have bound : (key.read word).toNat < 2 ^ key.length := by
    have gathered := Field.toNat_gather_lt [key] word
    rwa [Field.gather_single, Field.totalLength_cons, Field.totalLength_nil, Nat.add_zero]
      at gathered
  rcases calls.forms _ bound with ⟨form, isForm, isCall, unguarded⟩
  refine ⟨form, ?_, ?_, unguarded⟩
  · rw [DecodeTree.reach_of_read calls.isNode rfl isForm]
    rfl
  · have nonempty : 0 < key.length := key.length_pos
    have lowest : (key.read word).getLsbD 0 = word.getLsbD 0 := by
      rw [Field.getLsbD_read, calls.position, decide_eq_true nonempty, Bool.true_and]
    rw [isCall, ← lowest]
    rfl

theorem onCondition_callsByLowBit : CallsByLowBit Branch.onCondition Branch.variant where
  isNode := rfl
  position := rfl
  forms
    | 0, _ | 1, _ | 2, _ | 3, _ => ⟨_, rfl, rfl, by decide⟩

theorem unconditional_callsByLowBit : CallsByLowBit Branch.unconditional Branch.variant where
  isNode := rfl
  position := rfl
  forms
    | 0, _ | 1, _ | 2, _ | 3, _ => ⟨_, rfl, rfl, by decide⟩

theorem linkRegister_callsByLowBit :
    CallsByLowBit (Branch.registerGroup.branchAt 16) (.bit 0) where
  isNode := rfl
  position := rfl
  forms
    | 0, _ | 1, _ => ⟨_, rfl, rfl, by decide⟩

theorem countRegister_callsByLowBit :
    CallsByLowBit (Branch.registerGroup.branchAt 528) (.bit 0) where
  isNode := rfl
  position := rfl
  forms
    | 0, _ | 1, _ => ⟨_, rfl, rfl, by decide⟩

end Table

namespace Model

theorem branchAt_opcode (model : Model) :
    model.tree.branchAt 16 = Table.Branch.onCondition ∧
      model.tree.branchAt 18 = Table.Branch.unconditional ∧
      model.tree.branchAt 19 = Table.Branch.registerGroup := by
  cases model <;> exact ⟨rfl, rfl, rfl⟩

theorem reach_branch (model : Model) {word : Word} (isBranch : Table.IsBranch word) :
    ∃ form, model.tree.reach word = .form form ∧ form.tags.call = word.getLsbD 0 ∧
      .only64 ∉ form.steps := by
  have isNode : model.tree.nodeKey? = some [Table.primaryOpcode] := by cases model <;> rfl
  rcases model.branchAt_opcode with ⟨onCondition, unconditional, registerGroup⟩
  rcases isBranch with opcode | opcode | ⟨opcode, extended⟩
  · rw [DecodeTree.reach_of_read isNode opcode onCondition]
    exact Table.onCondition_callsByLowBit.reach word
  · rw [DecodeTree.reach_of_read isNode opcode unconditional]
    exact Table.unconditional_callsByLowBit.reach word
  · rw [DecodeTree.reach_of_read isNode opcode registerGroup]
    rcases extended with extended | extended
    · rw [DecodeTree.reach_of_read rfl extended rfl]
      exact Table.linkRegister_callsByLowBit.reach word
    · rw [DecodeTree.reach_of_read rfl extended rfl]
      exact Table.countRegister_callsByLowBit.reach word

theorem not_refuses_of_isBranch (model : Model) {word : Word} (isBranch : Table.IsBranch word) :
    ¬ model.Refuses word := by
  rcases model.reach_branch isBranch with ⟨form, reached, _, unguarded⟩
  intro refuses
  cases refuses with
  | unmapped other => rw [reached] at other; cases other
  | unsupported message other => rw [reached] at other; cases other
  | only64 guardedForm other narrow guarded =>
      rw [reached] at other
      cases other
      exact unguarded guarded
  | pair unfit =>
      have noPair : ¬ Table.IsPairOpcode (Table.primaryOpcode.read word) := by
        rcases isBranch with opcode | opcode | ⟨opcode, _⟩ <;> rw [opcode] <;> decide
      exact noPair unfit.1

end Model

/-! ## Records -/

/-- What may be relied on in the record of a word at an address. -/
structure Instruction.WellFormed (record : Instruction) (word : Word) (address : Address) :
    Prop where
  address_eq : record.address = address
  length_eq : record.length = 4
  one_kind : [record.tags.linear, record.tags.transfer, record.tags.invalid].count true = 1
  invalid_iff : record.tags.invalid = true ↔ record.mnemonic = .illegal
  empty_of_invalid : record.tags.invalid = true → record.operands = [] ∧ record.setsCr0 = false
  zero_iff : record.tags.zero = true ↔ word = 0
  transfer_of_ret_or_indirect :
    record.tags.ret = true ∨ record.tags.indirect = true → record.tags.transfer = true
  target_iff : (∃ target, Operand.target target ∈ record.operands) ↔
    record.tags.transfer = true ∧ record.tags.indirect = false ∧ record.tags.ret = false
  target_last : ∀ target, .target target ∈ record.operands →
    ∃ front, record.operands = front ++ [.target target] ∧ ∀ other, .target other ∉ front
  call_eq : Table.IsBranch word → record.tags.call = word.getLsbD 0

namespace DecodeState

theorem wellFormed_acceptedRecord {model : Model} {word : Word} {address : Address}
    {form : InstructionForm} {contributions : List Contribution}
    (reached : model.tree.reach word = .form form)
    (read : StepsRead (model.site address) word form.steps contributions) :
    (acceptedRecord form contributions address).WellFormed word address := by
  rcases Model.form_wellFormed reached with ⟨linear, zero, transfers, atEnd, targetIff⟩
  have valid := model.tree_forms_valid form (DecodeTree.mem_forms_of_reach reached)
  have included := read.includes
  exact {
    address_eq := rfl
    length_eq := rfl
    one_kind := by
      change [form.tags.linear, form.tags.transfer, form.tags.invalid].count true = 1
      rw [linear, valid]
      cases form.tags.transfer <;> rfl
    invalid_iff := iff_of_false (Bool.eq_false_iff.mp valid) (Model.mnemonic_ne_illegal reached)
    empty_of_invalid := fun isInvalid => absurd isInvalid (Bool.eq_false_iff.mp valid)
    zero_iff := iff_of_false (Bool.eq_false_iff.mp zero) (Model.word_ne_zero reached)
    transfer_of_ret_or_indirect := transfers
    target_iff := (OperandKind.exists_target_iff included).trans targetIff
    target_last := fun target member =>
      ⟨_, OperandKind.eq_append_target included atEnd member,
        OperandKind.target_notMem_dropLast included atEnd⟩
    call_eq := fun isBranch => by
      rcases model.reach_branch isBranch with ⟨other, otherReached, isCall, _⟩
      rw [reached] at otherReached
      cases otherReached
      exact isCall }

theorem markZero_illegal (word : Word) (address : Address) :
    markZero word (.illegal address) = { Instruction.illegal address with
      tags := { invalid := true, zero := decide (word = 0) } } := by
  unfold markZero
  split
  next isZero =>
    rw [decide_eq_true isZero]
    rfl
  next notZero =>
    rw [decide_eq_false notZero]
    rfl

theorem wellFormed_illegal {word : Word} (address : Address) (notBranch : ¬ Table.IsBranch word) :
    (markZero word (.illegal address)).WellFormed word address := by
  rw [markZero_illegal]
  exact {
    address_eq := rfl
    length_eq := rfl
    one_kind := rfl
    invalid_iff := iff_of_true rfl rfl
    empty_of_invalid := fun _ => ⟨rfl, rfl⟩
    zero_iff := decide_eq_true_iff
    transfer_of_ret_or_indirect := nofun
    target_iff := iff_of_false nofun nofun
    target_last := nofun
    call_eq := fun isBranch => absurd isBranch notBranch }

end DecodeState

namespace Processor

/-- The record of any word, wherever it is, tells the flow of control without
contradiction. -/
theorem decode_wellFormed (model : Model) (order : ByteOrder) (word : Word) (address : Address) :
    ((Processor.mk model order).decode word address).instruction.WellFormed word address := by
  by_cases refuses : model.Refuses word
  · have notBranch : ¬ Table.IsBranch word := fun isBranch =>
      model.not_refuses_of_isBranch isBranch refuses
    rcases refuses_or_accepts model order word address with ⟨_, illegal⟩ | ⟨accepts, _⟩
    · rw [illegal]
      exact DecodeState.wellFormed_illegal address notBranch
    · exact absurd refuses accepts
  · rcases (model.exists_stepsRead_iff_not_refuses word address).mpr refuses with
      ⟨form, contributions, reached, read⟩
    rw [decode_accepted reached read, DecodeState.markZero,
      if_neg (Model.word_ne_zero reached)]
    exact DecodeState.wellFormed_acceptedRecord reached read

end Processor

end PowerDisasm
