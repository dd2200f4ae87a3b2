import PowerDisasm.Proofs.FormComposition
import PowerDisasm.Proofs.ModelExtension
import PowerDisasm.Proofs.OperandText

/-! # Operands that a model has

Steps hand whatever bits they read to the register catalog, which takes as many
of them as a register file has numbers for. So no word makes a record name a
register, a special-purpose register or an address that the model does not
have, whatever the tree and the steps of its forms. -/

namespace PowerDisasm

/-! ## Register files -/

namespace RegisterCatalog

def file (register : Nat → Register) (count : Nat) : List Register :=
  (List.range count).map register

theorem getElem?_file (register : Nat → Register) (width index : Nat) :
    (file register (2 ^ width))[index &&& (2 ^ width - 1)]? =
      some (register (index % 2 ^ width)) := by
  have inside : index % 2 ^ width < 2 ^ width := Nat.mod_lt _ (Nat.two_pow_pos width)
  rw [file, Nat.and_two_pow_sub_one_eq_mod, List.getElem?_map, List.getElem?_range inside,
    Option.map_some]

/-- A lookup finds the register that stands in its file at the index that is left
of the bits, and a special-purpose register that is in the catalog. -/
structure LooksUpInside (catalog : RegisterCatalog) (bits : Word) : Prop where
  general : (file .general 32)[bits.toNat &&& 0x1F]? = some (general bits)
  floating : (file .floating 32)[bits.toNat &&& 0x1F]? = some (floating bits)
  condition : (file .condition 8)[bits.toNat &&& 0x7]? = some (condition bits)
  vector : (file .vector catalog.vectorCount)[bits.toNat &&& (catalog.vectorCount - 1)]? =
    some (catalog.vector bits)
  special : ∀ register, catalog.special? bits.toNat = some register →
    ∃ entry ∈ catalog.specials.entries, register = .special entry.1 (some entry.2)

theorem special?_eq_some_iff {catalog : RegisterCatalog} {number : Nat} {register : Register} :
    catalog.special? number = some register ↔
      ∃ name, catalog.specials.name? number = some name ∧
        register = .special number (some name) := by
  unfold special?
  cases catalog.specials.name? number with
  | none => simp
  | some name => simp [eq_comm]

theorem looksUpInside_ofModel (model : Model) (bits : Word) :
    (ofModel model).LooksUpInside bits where
  general := getElem?_file .general 5 bits.toNat
  floating := getElem?_file .floating 5 bits.toNat
  condition := getElem?_file .condition 3 bits.toNat
  vector := by
    rw [RegisterCatalog.vector, vectorCount, Nat.one_shiftLeft]
    exact getElem?_file .vector _ bits.toNat
  special := by
    intro register found
    rcases special?_eq_some_iff.mp found with ⟨name, named, rfl⟩
    exact ⟨_, model.specials_unambiguous.mem_entries named, rfl⟩

end RegisterCatalog

/-! ## What a model has -/

namespace Model

def vectorRegisters : Model → Nat
  | .ppc32 => 32
  | .ppc64 => 32
  | .xenon => 128

inductive HasRegister (model : Model) : Register → Prop where
  | general {number : Nat} (bound : number < 32) : HasRegister model (.general number)
  | floating {number : Nat} (bound : number < 32) : HasRegister model (.floating number)
  | condition {number : Nat} (bound : number < 8) : HasRegister model (.condition number)
  | vector {number : Nat} (bound : number < model.vectorRegisters) :
      HasRegister model (.vector number)
  | special {number : Nat} {name : String}
      (named : (RegisterCatalog.ofModel model).specials.name? number = some name) :
      HasRegister model (.special number (some name))

inductive HasOperand (model : Model) : Operand → Prop where
  | register {named : Register} (has : model.HasRegister named) :
      HasOperand model (.register named)
  | immediate (literal : Immediate) : HasOperand model (.immediate literal)
  | memory {number : Nat} (bound : number < 32) (displacement : BitVec 16) :
      HasOperand model (.memory (.general number) displacement)
  | target {address : Address} (bound : address.toNat < 2 ^ model.wordWidth.bits) :
      HasOperand model (.target address)

end Model

/-! ## What steps read -/

namespace DecodeStep

/-- What a step that checks or cuts a word makes sure of: the first register of a
pair is even, and a displacement is a multiple of four. -/
def Ensures (operand : Operand) : DecodeStep → Prop
  | .floatingPair _ =>
      ∃ number, operand = .register (.floating number) ∧ number % 2 = 0
  | .alignedMemory => ∃ base displacement,
      operand = .memory base displacement ∧ displacement.toInt % 4 = 0
  | .selectedMemory _ => ∃ base displacement,
      operand = .memory base displacement ∧ displacement.toInt % 4 = 0
  | _ => True

theorem hasRegister_vector (model : Model) (bits : Word) :
    model.HasRegister ((RegisterCatalog.ofModel model).vector bits) := by
  cases model <;> exact .vector (Nat.mod_lt _ (by decide))

theorem hasOperand_special (model : Model) (number : Nat) :
    model.HasOperand (specialOperand (.ofModel model) number) := by
  unfold specialOperand
  split
  next register found =>
    rcases RegisterCatalog.special?_eq_some_iff.mp found with ⟨name, named, rfl⟩
    exact .register (.special named)
  next => exact .immediate _

theorem toNat_branchTarget_lt (model : Model) (address : Address) (field : Field) (word : Word) :
    (branchTarget (model.site address) field word).toNat < 2 ^ model.wordWidth.bits := by
  cases model with
  | ppc32 =>
      rw [branchTarget_widens .wide]
      exact Nat.mod_lt _ (by decide)
  | ppc64 => exact BitVec.isLt _
  | xenon => exact BitVec.isLt _

theorem hasOperand_of_evaluate {model : Model} {address : Address} {word : Word}
    {step : DecodeStep} {operand : Operand}
    (read : step.evaluate (model.site address) word = some (.operand operand)) :
    model.HasOperand operand := by
  have general (bits : Word) : bits.toNat % 32 < 32 := Nat.mod_lt _ (by decide)
  have condition (bits : Word) : bits.toNat % 8 < 8 := Nat.mod_lt _ (by decide)
  cases step with
  | general offset =>
      cases read
      exact .register (.general (general _))
  | floating offset =>
      cases read
      exact .register (.floating (general _))
  | floatingPair offset =>
      rcases Option.ite_none_right_eq_some.mp read with ⟨_, contributed⟩
      cases contributed
      exact .register (.floating (general _))
  | condition offset | comparisonResult =>
      cases read
      exact .register (.condition (condition _))
  | vector offset | vectorTarget128 | vectorFirst128 | vectorSecond128 | vectorControl128 =>
      cases read
      exact .register (hasRegister_vector model _)
  | special =>
      cases read
      exact hasOperand_special model _
  | unsignedFields fields =>
      cases read
      unfold unsignedOperand
      split <;> exact .immediate _
  | memory offset | selectedMemory offset =>
      cases read
      exact .memory (general _) _
  | alignedMemory =>
      rcases Option.ite_none_right_eq_some.mp read with ⟨_, contributed⟩
      cases contributed
      exact .memory (general _) _
  | target field =>
      cases read
      exact .target (toNat_branchTarget_lt model address field word)
  | only64 =>
      rcases Option.ite_none_right_eq_some.mp read with ⟨_, contributed⟩
      cases contributed
  | recordFlag | recordFlag6 | recordFlag10 | alwaysRecords => cases read
  | _ =>
      cases read
      exact .immediate _

theorem toInt_lowHalf_emod {word : Word} (low : word &&& 0x3 = 0) :
    (lowHalf word).toInt % 4 = 0 := by
  have multiple : word.toNat % 4 = 0 := by
    rw [← Nat.and_two_pow_sub_one_eq_mod word.toNat 2]
    exact congrArg BitVec.toNat low
  have half : (lowHalf word).toNat = word.toNat % 2 ^ 16 := BitVec.toNat_setWidth 16 word
  rw [BitVec.toInt_eq_toNat_cond, half]
  split <;> omega

theorem ensures_of_evaluate {site : DecodeSite} {word : Word} {step : DecodeStep}
    {operand : Operand} (read : step.evaluate site word = some (.operand operand)) :
    step.Ensures operand := by
  cases step with
  | floatingPair offset =>
      rcases Option.ite_none_right_eq_some.mp read with ⟨even, contributed⟩
      cases contributed
      exact ⟨_, rfl, even⟩
  | alignedMemory =>
      rcases Option.ite_none_right_eq_some.mp read with ⟨aligned, contributed⟩
      cases contributed
      exact ⟨_, _, rfl, toInt_lowHalf_emod aligned⟩
  | selectedMemory offset =>
      cases read
      refine ⟨_, _, rfl, toInt_lowHalf_emod ?_⟩
      rw [BitVec.and_assoc]
      exact BitVec.and_zero
  | _ => trivial

end DecodeStep

/-! ## Records -/

namespace DecodeState

theorem operands_of_decode (model : Model) (order : ByteOrder)
    (tree : DecodeTree InstructionForm) (word : Word) (address : Address) :
    let record := ((initial model order).decode tree word address).1.instruction
    record.operands = [] ∨ ∃ form, tree.reach word = .form form ∧
      List.Forall₂
        (fun step operand => step.evaluate (model.site address) word = some (.operand operand))
        (form.steps.filter fun step => step.effect = .operand) record.operands := by
  dsimp only
  rcases decode_cases (initial model order) tree word address with
    ⟨form, contributions, reached, read, outcome⟩ | ⟨kind, message, outcome⟩
  · refine .inr ⟨form, reached, ?_⟩
    rw [outcome, markZero_eq]
    apply (read.forall₂_filter Contribution.isSome_operand?).imp
    rintro step operand ⟨contribution, evaluated, isOperand⟩
    cases contribution with
    | operand other =>
        cases isOperand
        exact evaluated
    | setsCr0 flag => cases isOperand
    | nothing => cases isOperand
  · left
    rw [outcome, markZero_eq]
    rfl

/-- Whatever the tree and the word, a record names only registers that the model
has, by the names it has for them, and addresses of its width. Each operand is
read by a step of the form, and is what this step makes sure of. -/
theorem decode_hasOperands (model : Model) (order : ByteOrder)
    (tree : DecodeTree InstructionForm) (word : Word) (address : Address) :
    let record := ((initial model order).decode tree word address).1.instruction
    (∀ bits, (RegisterCatalog.ofModel model).LooksUpInside bits) ∧
      (∀ operand ∈ record.operands, model.HasOperand operand) ∧
      (record.operands = [] ∨ ∃ form, tree.reach word = .form form ∧
        List.Forall₂
          (fun step operand =>
            step.evaluate (model.site address) word = some (.operand operand) ∧
              step.Ensures operand)
          (form.steps.filter fun step => step.effect = .operand) record.operands) := by
  intro record
  refine ⟨RegisterCatalog.looksUpInside_ofModel model, ?_, ?_⟩
  · intro operand member
    rcases operands_of_decode model order tree word address with empty | ⟨form, _, read⟩
    · rw [empty] at member
      cases member
    · have each := (read.imp fun step operand evaluated =>
        And.intro (DecodeStep.hasOperand_of_evaluate evaluated) evaluated).flip
      exact ((List.forall₂_and_left _ _).mp each).1 operand member
  · apply (operands_of_decode model order tree word address).imp_right
    rintro ⟨form, reached, read⟩
    exact ⟨form, reached, read.imp fun step operand evaluated =>
      ⟨evaluated, DecodeStep.ensures_of_evaluate evaluated⟩⟩

end DecodeState

end PowerDisasm
