import PowerDisasm.Proofs.Acceptance
import PowerDisasm.Proofs.SpecialRegisters

/-! # Models that extend one another

The 64-bit model decodes what the 32-bit one does, and the model with 128
vector registers what the 64-bit one does. Their records differ in the width of
branch targets and in the names of special-purpose registers, and in nothing
else; what only the larger model decodes is told from the instruction. -/

namespace PowerDisasm

/-! ## Trees side by side -/

namespace DecodeTree

variable {Form : Type}

theorem listedEncodings_append (pattern : Pattern) (key : List Field)
    (left right : List (Nat × DecodeTree Form)) :
    listedEncodings pattern key (left ++ right) =
      listedEncodings pattern key left ++ listedEncodings pattern key right := by
  induction left with
  | nil => rfl
  | cons entry rest induction =>
      rw [List.cons_append, listedEncodings, listedEncodings, induction, List.append_assoc]

def Joins (whole left right : DecodeTree Form) : Prop :=
  ∀ pattern encoding, encoding ∈ encodingsFrom pattern whole ↔
    encoding ∈ encodingsFrom pattern left ∨ encoding ∈ encodingsFrom pattern right

theorem Joins.mem_encodingsAt_iff {whole left right : DecodeTree Form}
    (joins : Joins whole left right) (pattern : Pattern) (key : List Field) (value : Nat)
    (encoding : Encoding Form) :
    encoding ∈ encodingsAt pattern key whole value ↔
      encoding ∈ encodingsAt pattern key left value ∨
        encoding ∈ encodingsAt pattern key right value := by
  unfold encodingsAt
  split
  next refined _ => exact joins refined encoding
  next => simp

end DecodeTree

namespace Table

open DecodeTree

theorem encodingsFrom_choose (pattern : Pattern) (bit : Field) (clear set : InstructionTree) :
    encodingsFrom pattern (choose bit clear set) =
      encodingsAt pattern [bit] clear 0 ++ encodingsAt pattern [bit] set 1 :=
  congrArg _ (List.append_nil _)

theorem listedEncodings_cons (pattern : Pattern) (key : List Field) (value : Nat)
    (entry : InstructionTree) (rest : Entries) :
    listedEncodings pattern key ((value, entry) :: rest) =
      encodingsAt pattern key entry value ++ listedEncodings pattern key rest :=
  rfl

def vector128Storage : InstructionTree :=
  choose (.bit 5) (select (.span 0 11) Vector128.storageEntries) .invalid

def vector128Alone : InstructionTree :=
  select primaryOpcode
    [(4, vector128Storage), (5, Vector128.permuteGroup), (6, Vector128.compareGroup)]

theorem joins_select_append (key : Field) (left right : Entries) :
    Joins (select key (left ++ right)) (select key left) (select key right) := by
  intro pattern encoding
  change encoding ∈ listedEncodings pattern [key] (left ++ right) ↔ _
  rw [listedEncodings_append, List.mem_append]
  rfl

theorem joins_group :
    Joins (Vector.group Vector128.storageEntries) (Vector.group []) vector128Storage := by
  intro pattern encoding
  have keys := joins_select_append (.span 0 11)
    (Vector.arithmeticEntries ++ Vector.comparisonEntries) Vector128.storageEntries
  rw [Vector.group, Vector.group, vector128Storage, List.append_nil, encodingsFrom_choose,
    encodingsFrom_choose, encodingsFrom_choose, encodingsAt_invalid, List.append_nil,
    List.mem_append, List.mem_append, keys.mem_encodingsAt_iff, or_right_comm]

/-- No entry for 32 vector registers is lost to those for 128. -/
theorem mem_encodings_withVector128_iff {encoding : Encoding InstructionForm} :
    encoding ∈ withVector128.encodings ↔
      encoding ∈ withVector32.encodings ∨ encoding ∈ vector128Alone.encodings := by
  change encoding ∈ listedEncodings .any [primaryOpcode] (commonEntries ++ vectorEntries true) ↔
    encoding ∈ listedEncodings .any [primaryOpcode] (commonEntries ++ vectorEntries false) ∨
      encoding ∈ listedEncodings .any [primaryOpcode] _
  rw [listedEncodings_append, listedEncodings_append, List.mem_append, List.mem_append]
  simp only [vectorEntries, if_true, Bool.false_eq_true, if_false, listedEncodings_cons,
    List.mem_append, joins_group.mem_encodingsAt_iff]
  rw [listedEncodings]
  simp only [List.not_mem_nil, or_false, or_assoc]

end Table

/-! ## The larger model -/

namespace Model

inductive ExtendedBy : Model → Model → Prop where
  | wide : ExtendedBy .ppc32 .ppc64
  | vector128 : ExtendedBy .ppc64 .xenon

namespace ExtendedBy

variable {smaller larger : Model}

theorem reach (extended : smaller.ExtendedBy larger) {word : Word} {form : InstructionForm}
    (reached : smaller.tree.reach word = .form form) : larger.tree.reach word = .form form := by
  cases extended with
  | wide => exact reached
  | vector128 =>
      rcases reach_tree_eq_form_iff.mp reached with ⟨pattern, holds, inTable⟩
      exact reach_tree_eq_form_iff.mpr
        ⟨pattern, holds, Table.mem_encodings_withVector128_iff.mpr (.inl inTable)⟩

theorem wordWidth (extended : smaller.ExtendedBy larger) : larger.wordWidth = .w64 := by
  cases extended <;> rfl

theorem extraSpecials_subset (extended : smaller.ExtendedBy larger) :
    smaller.extraSpecials ⊆ larger.extraSpecials := by
  cases extended with
  | wide => exact List.nil_subset _
  | vector128 => exact List.subset_append_left _ _

theorem name?_of_some (extended : smaller.ExtendedBy larger) {number : Nat} {name : String}
    (named : (RegisterCatalog.ofModel smaller).specials.name? number = some name) :
    (RegisterCatalog.ofModel larger).specials.name? number = some name := by
  rw [name?_ofModel, Option.or_eq_some_iff,
    SpecialNames.lookup_eq_some_iff smaller.extraSpecials_nodup] at named
  rw [name?_ofModel, Option.or_eq_some_iff,
    SpecialNames.lookup_eq_some_iff larger.extraSpecials_nodup]
  rcases named with own | ⟨_, shared⟩
  · exact .inl (extended.extraSpecials_subset own)
  · refine .inr ⟨?_, shared⟩
    cases found : larger.extraSpecials.lookup number with
    | none => rfl
    | some other =>
        have member := (SpecialNames.lookup_eq_some_iff larger.extraSpecials_nodup).mp found
        rw [larger.extraSpecials_not_shared _ member] at shared
        cases shared

/-- A number without a name may get one from the larger model's own registers. -/
theorem name?_of_none {number : Nat}
    (unnamed : (RegisterCatalog.ofModel smaller).specials.name? number = none) :
    (RegisterCatalog.ofModel larger).specials.name? number =
      larger.extraSpecials.lookup number := by
  rw [name?_ofModel, Option.or_eq_none_iff] at unnamed
  rw [name?_ofModel, unnamed.2, Option.or_none]

end ExtendedBy

end Model

/-! ## Operands -/

/-- How an operand of a model appears on a larger one. A target is reduced to the
addresses of the smaller model. Numbers of 32 bits stand for special-purpose
registers without a name, and the larger model may have one for them. -/
def Operand.Widens (smaller larger : Model) (narrow wide : Operand) : Prop :=
  match narrow with
  | .target address =>
      ∃ full, wide = .target full ∧ address.toNat = full.toNat % 2 ^ smaller.wordWidth.bits
  | .immediate (.unsigned32 number) =>
      wide = match larger.extraSpecials.lookup number.toNat with
        | some name => .register (.special number.toNat (some name))
        | none => narrow
  | _ => wide = narrow

inductive Contribution.Widens (smaller larger : Model) : Contribution → Contribution → Prop where
  | operand {narrow wide : Operand} (widens : narrow.Widens smaller larger wide) :
      Widens smaller larger (.operand narrow) (.operand wide)
  | setsCr0 (flag : Bool) : Widens smaller larger (.setsCr0 flag) (.setsCr0 flag)
  | nothing : Widens smaller larger .nothing .nothing

namespace DecodeStep

/-- The step reads neither one of 128 vector registers nor a number of more than
eight bits. -/
def isBasic : DecodeStep → Bool
  | .vectorTarget128 => false
  | .vectorFirst128 => false
  | .vectorSecond128 => false
  | .vectorControl128 => false
  | .unsignedFields fields => Field.totalLength fields ≤ 8
  | _ => true

variable {smaller larger : Model}

theorem vector_eq (bits : Word) :
    (RegisterCatalog.ofModel smaller).vector (bits &&& 0x1F) =
      (RegisterCatalog.ofModel larger).vector (bits &&& 0x1F) := by
  have small (model : Model) : (bits &&& 0x1F).toNat %
      (RegisterCatalog.ofModel model).vectorCount = (bits &&& 0x1F).toNat := by
    apply Nat.mod_eq_of_lt
    have bound : (bits &&& 0x1F).toNat ≤ 0x1F := by
      rw [BitVec.toNat_and]
      exact Nat.and_le_right
    cases model <;> exact Nat.lt_of_le_of_lt bound (by decide)
  rw [RegisterCatalog.vector, RegisterCatalog.vector, small, small]

theorem specialOperand_widens (extended : smaller.ExtendedBy larger) (word : Word) :
    (specialOperand (.ofModel smaller) (specialNumber word)).Widens smaller larger
      (specialOperand (.ofModel larger) (specialNumber word)) := by
  have isNumber : (BitVec.ofNat 32 (specialNumber word)).toNat = specialNumber word := by
    rw [BitVec.toNat_ofNat]
    exact Nat.mod_eq_of_lt (BitVec.isLt _)
  unfold specialOperand RegisterCatalog.special?
  cases named : (RegisterCatalog.ofModel smaller).specials.name? (specialNumber word) with
  | some name => rw [extended.name?_of_some named]; rfl
  | none =>
      rw [Model.ExtendedBy.name?_of_none named]
      simp only [Operand.Widens, isNumber]
      cases larger.extraSpecials.lookup (specialNumber word) <;> rfl

theorem branchTarget_widens (extended : smaller.ExtendedBy larger) (address : Address)
    (field : Field) (word : Word) :
    (branchTarget (smaller.site address) field word).toNat =
      (branchTarget (larger.site address) field word).toNat %
        2 ^ smaller.wordWidth.bits := by
  cases extended with
  | wide =>
      change BitVec.toNat (_ &&& 0xFFFFFFFF) = BitVec.toNat _ % 2 ^ 32
      rw [BitVec.toNat_and]
      exact Nat.and_two_pow_sub_one_eq_mod _ 32
  | vector128 => exact (Nat.mod_eq_of_lt (BitVec.isLt _)).symm

theorem evaluate_widens (extended : smaller.ExtendedBy larger) {step : DecodeStep}
    (basic : step.isBasic = true) {address : Address} {word : Word} {narrow : Contribution}
    (read : step.evaluate (smaller.site address) word = some narrow) :
    ∃ wide, step.evaluate (larger.site address) word = some wide ∧
      narrow.Widens smaller larger wide := by
  cases step with
  | vectorTarget128 | vectorFirst128 | vectorSecond128 | vectorControl128 => cases basic
  | only64 =>
      refine ⟨.nothing, if_pos extended.wordWidth, ?_⟩
      rcases Option.ite_none_right_eq_some.mp read with ⟨_, contributed⟩
      cases contributed
      exact .nothing
  | vector offset =>
      cases read
      exact ⟨_, rfl, .operand (congrArg Operand.register (vector_eq _)).symm⟩
  | special =>
      cases read
      exact ⟨_, rfl, .operand (specialOperand_widens extended word)⟩
  | target field =>
      cases read
      exact ⟨_, rfl, .operand ⟨_, rfl, branchTarget_widens extended address field word⟩⟩
  | unsignedFields fields =>
      cases read
      refine ⟨_, rfl, .operand ?_⟩
      rw [unsignedOperand, if_pos (of_decide_eq_true basic)]
      rfl
  | floatingPair _ | alignedMemory =>
      refine ⟨narrow, read, ?_⟩
      rcases Option.ite_none_right_eq_some.mp read with ⟨_, contributed⟩
      cases contributed
      exact .operand rfl
  | recordFlag | recordFlag6 | recordFlag10 | alwaysRecords =>
      cases read
      exact ⟨_, rfl, .setsCr0 _⟩
  | _ =>
      cases read
      exact ⟨_, rfl, .operand rfl⟩

end DecodeStep

/-! ## Records -/

section Records

variable {smaller larger : Model}

theorem StepsRead.widens (extended : smaller.ExtendedBy larger) {address : Address} {word : Word}
    {steps : List DecodeStep} (basic : ∀ step ∈ steps, step.isBasic = true)
    {narrow : List Contribution} (read : StepsRead (smaller.site address) word steps narrow) :
    ∃ wide, StepsRead (larger.site address) word steps wide ∧
      List.Forall₂ (Contribution.Widens smaller larger) narrow wide := by
  induction read with
  | nil => exact ⟨[], .nil, .nil⟩
  | cons head _ induction =>
      rcases DecodeStep.evaluate_widens extended (basic _ List.mem_cons_self) head with
        ⟨first, firstRead, firstWidens⟩
      rcases induction fun step member => basic step (List.mem_cons_of_mem _ member) with
        ⟨rest, restRead, restWiden⟩
      exact ⟨first :: rest, .cons firstRead restRead, .cons firstWidens restWiden⟩

theorem operands_widen {narrow wide : List Contribution}
    (widen : List.Forall₂ (Contribution.Widens smaller larger) narrow wide) :
    List.Forall₂ (Operand.Widens smaller larger) (narrow.filterMap Contribution.operand?)
      (wide.filterMap Contribution.operand?) := by
  induction widen with
  | nil => exact .nil
  | cons head _ induction =>
      cases head with
      | operand widens => exact .cons widens induction
      | setsCr0 flag => exact induction
      | nothing => exact induction

theorem flags_eq_of_widen {narrow wide : List Contribution}
    (widen : List.Forall₂ (Contribution.Widens smaller larger) narrow wide) :
    wide.filterMap Contribution.flag? = narrow.filterMap Contribution.flag? := by
  induction widen with
  | nil => rfl
  | cons head _ induction =>
      cases head with
      | operand widens => exact induction
      | setsCr0 flag => exact congrArg (List.cons flag) induction
      | nothing => exact induction

end Records

structure Instruction.Widens (smaller larger : Model) (narrow wide : Instruction) : Prop where
  valid : wide.isValid = true
  mnemonic_eq : wide.mnemonic = narrow.mnemonic
  tags_eq : wide.tags = narrow.tags
  address_eq : wide.address = narrow.address
  length_eq : wide.length = narrow.length
  setsCr0_eq : wide.setsCr0 = narrow.setsCr0
  operands_widen :
    List.Forall₂ (Operand.Widens smaller larger) narrow.operands wide.operands

theorem Instruction.Widens.markZero {smaller larger : Model} {narrow wide : Instruction}
    (widens : narrow.Widens smaller larger wide) (word : Word) :
    (DecodeState.markZero word narrow).Widens smaller larger
      (DecodeState.markZero word wide) := by
  have valid := (DecodeState.markZero_isValid word wide).trans widens.valid
  by_cases zero : word = 0
  · simp only [DecodeState.markZero, if_pos zero] at valid ⊢
    exact { widens with
      valid := valid
      tags_eq := congrArg (·.union { zero := true }) widens.tags_eq }
  · simp only [DecodeState.markZero, if_neg zero]
    exact widens

namespace Table

theorem withVector32_isBasic :
    ∀ form ∈ withVector32.forms, ∀ step ∈ form.steps, step.isBasic = true := by
  decide +kernel

end Table

namespace Model.ExtendedBy

variable {smaller larger : Model}

theorem isBasic_of_mem_forms (extended : smaller.ExtendedBy larger) :
    ∀ form ∈ smaller.tree.forms, ∀ step ∈ form.steps, step.isBasic = true := by
  cases extended with
  | wide => exact Table.withVector32_isBasic
  | vector128 => exact Table.withVector32_isBasic

theorem decode_widens (extended : smaller.ExtendedBy larger) (order : ByteOrder) (word : Word)
    (address : Address)
    (valid : ((Processor.mk smaller order).decode word address).instruction.isValid = true) :
    ((Processor.mk smaller order).decode word address).instruction.Widens smaller larger
      ((Processor.mk larger order).decode word address).instruction := by
  rcases Processor.exists_accepted_of_valid valid with ⟨form, narrow, reached, read, isNarrow⟩
  have basic := extended.isBasic_of_mem_forms form (DecodeTree.mem_forms_of_reach reached)
  rcases read.widens extended basic with ⟨wide, wideRead, widen⟩
  rw [isNarrow, DecodeState.markZero_isValid] at valid
  rw [isNarrow, Processor.decode_accepted (extended.reach reached) wideRead order]
  apply Instruction.Widens.markZero
  exact {
    valid := valid
    mnemonic_eq := rfl
    tags_eq := rfl
    address_eq := rfl
    length_eq := rfl
    setsCr0_eq := congrArg (fun flags => flags.getLast?.getD false) (flags_eq_of_widen widen)
    operands_widen := operands_widen widen }

end Model.ExtendedBy

/-! ## What only the larger model decodes -/

namespace Mnemonic

def namesVector128 (mnemonic : Mnemonic) : Bool :=
  "128".toList.isSuffixOf mnemonic.name.toList

end Mnemonic

namespace Table

theorem vector128Alone_namesVector128 :
    ∀ encoding ∈ vector128Alone.encodings, encoding.form.mnemonic.namesVector128 = true := by
  decide +kernel

theorem withVector32_not_namesVector128 :
    ∀ form ∈ withVector32.forms, form.mnemonic.namesVector128 = false := by
  decide +kernel

end Table

namespace Processor

variable {order : ByteOrder} {word : Word} {address : Address}

/-- What only the 64-bit model decodes has a step that asks for it. -/
theorem illegal_ppc32_iff
    (valid : ((Processor.mk .ppc64 order).decode word address).instruction.isValid = true) :
    ((Processor.mk .ppc32 order).decode word address).instruction.isValid = false ↔
      ∃ form, Model.ppc64.tree.reach word = .form form ∧ .only64 ∈ form.steps := by
  rw [decode_valid_iff] at valid
  rw [← Bool.not_eq_true, decode_valid_iff, not_not]
  constructor
  · intro refuses
    cases refuses with
    | unmapped found => exact absurd (.unmapped found) valid
    | unsupported message found => exact absurd (.unsupported message found) valid
    | only64 form found _ guarded => exact ⟨form, found, guarded⟩
    | pair unfit => exact absurd (.pair unfit) valid
  · rintro ⟨form, found, guarded⟩
    exact .only64 form found rfl guarded

/-- What only the model with 128 vector registers decodes names such registers. -/
theorem illegal_ppc64_iff
    (valid : ((Processor.mk .xenon order).decode word address).instruction.isValid = true) :
    ((Processor.mk .ppc64 order).decode word address).instruction.isValid = false ↔
      ((Processor.mk .xenon order).decode word address).instruction.mnemonic.namesVector128 =
        true := by
  constructor
  · intro illegal
    rw [← Bool.not_eq_true, decode_valid_iff, not_not] at illegal
    rcases exists_accepted_of_valid valid with ⟨form, contributions, reached, read, _⟩
    rw [(decode_shows reached read order).mnemonic]
    rw [decode_valid_iff] at valid
    rcases Model.reach_tree_eq_form_iff.mp reached with ⟨pattern, holds, inTable⟩
    rcases Table.mem_encodings_withVector128_iff.mp inTable with shared | alone
    · have found : Model.ppc64.tree.reach word = .form form :=
        Model.reach_tree_eq_form_iff.mpr ⟨pattern, holds, shared⟩
      cases illegal with
      | unmapped other => rw [found] at other; cases other
      | unsupported message other => rw [found] at other; cases other
      | only64 _ _ narrow _ => cases narrow
      | pair unfit => exact absurd (.pair unfit) valid
    · exact Table.vector128Alone_namesVector128 ⟨pattern, form⟩ alone
  · intro names
    rw [← Bool.not_eq_true]
    intro valid64
    have widens := Model.ExtendedBy.vector128.decode_widens order word address valid64
    rcases exists_accepted_of_valid valid64 with ⟨form, contributions, reached, read, _⟩
    rw [widens.mnemonic_eq, (decode_shows reached read order).mnemonic,
      Table.withVector32_not_namesVector128 form (DecodeTree.mem_forms_of_reach reached)] at names
    cases names

/-- Each model decodes what the next smaller one does, to the same record but for
targets and names of special-purpose registers; what the smaller one does not
decode asks for 64 bits or names one of 128 vector registers. -/
theorem decode_extends (order : ByteOrder) (word : Word) (address : Address) :
    let record (model : Model) := ((Processor.mk model order).decode word address).instruction
    (∀ smaller larger, smaller.ExtendedBy larger → (record smaller).isValid = true →
      (record smaller).Widens smaller larger (record larger)) ∧
    ((record .ppc64).isValid = true →
      ((record .ppc32).isValid = false ↔
        ∃ form, Model.ppc64.tree.reach word = .form form ∧ .only64 ∈ form.steps)) ∧
    ((record .xenon).isValid = true →
      ((record .ppc64).isValid = false ↔ (record .xenon).mnemonic.namesVector128 = true)) :=
  ⟨fun _ _ extended valid => extended.decode_widens order word address valid,
    illegal_ppc32_iff, illegal_ppc64_iff⟩

end Processor

end PowerDisasm
