import PowerDisasm.DecodeTree
import PowerDisasm.Diagnostic
import PowerDisasm.Instruction
import PowerDisasm.InstructionForm
import PowerDisasm.Register.Catalog

/-! # Decoding one word after another

A decode state carries what the steps of a form have read so far. Decoding a
word starts with no operands, takes the steps of the form that the word leads
to, and makes a record of what they read; if there is no form, or a step
rejects the word, the record is the illegal one and a diagnostic says why. -/

namespace PowerDisasm

/-- What a step may use besides the word. -/
structure DecodeSite where
  address : Address
  wordWidth : WordWidth
  registers : RegisterCatalog
deriving DecidableEq

inductive Contribution where
  | operand (read : Operand)
  | setsCr0 (flag : Bool)
  | nothing
deriving DecidableEq

namespace DecodeStep

def lowHalf (word : Word) : BitVec 16 :=
  word.setWidth 16

/-- The number of a special-purpose register: bits 16 to 20 are its low half. -/
def specialNumber (word : Word) : Nat :=
  (((word >>> 16) &&& 0x1F) ||| ((word >>> 6) &&& 0x3E0)).toNat

def specialOperand (registers : RegisterCatalog) (number : Nat) : Operand :=
  match registers.special? number with
  | some named => .register named
  | none => .immediate (.unsigned32 (BitVec.ofNat 32 number))

/-- An unsigned value, as a byte if it comes from no more than eight bits. -/
def unsignedOperand (bits : Nat) (value : Word) : Operand :=
  if bits ≤ 8 then
    .immediate (.unsigned8 (value.setWidth 8))
  else
    .immediate (.unsigned32 value)

/-- Where a branch goes: bit 1 makes the displacement absolute, and the target
has as many bits as the processor's addresses. -/
def branchTarget (site : DecodeSite) (field : Field) (word : Word) : Address :=
  let displacement := (field.readSigned word).toInt * 4
  let target :=
    if word.getLsbD 1 then Address.offset (.ofNat 0) displacement
    else site.address.offset displacement
  match site.wordWidth with
  | .w32 => ⟨target.bits &&& 0xFFFFFFFF⟩
  | .w64 => target

def evaluate (site : DecodeSite) (word : Word) : DecodeStep → Option Contribution
  | .general offset =>
      some (.operand (.register (RegisterCatalog.general (word >>> offset))))
  | .floating offset =>
      some (.operand (.register (RegisterCatalog.floating (word >>> offset))))
  | .floatingPair offset =>
      let first := RegisterCatalog.floating (word >>> offset)
      if first.number % 2 = 0 then some (.operand (.register first)) else none
  | .vector offset =>
      some (.operand (.register (site.registers.vector ((word >>> offset) &&& 0x1F))))
  | .condition offset =>
      some (.operand (.register (RegisterCatalog.condition (word >>> offset))))
  | .comparisonResult =>
      some (.operand (.register (RegisterCatalog.condition (word >>> 23))))
  | .special =>
      some (.operand (specialOperand site.registers (specialNumber word)))
  | .vectorTarget128 =>
      some (.operand (.register (site.registers.vector
        (((word >>> 21) &&& 0x1F) ||| ((word &&& 0xC) <<< 3)))))
  | .vectorFirst128 =>
      some (.operand (.register (site.registers.vector
        (((word >>> 16) &&& 0x1F) ||| ((word >>> 4) &&& 0x40) ||| (word &&& 0x20)))))
  | .vectorSecond128 =>
      some (.operand (.register (site.registers.vector
        (((word >>> 11) &&& 0x1F) ||| ((word &&& 0x3) <<< 5)))))
  | .vectorControl128 =>
      some (.operand (.register (site.registers.vector ((word >>> 6) &&& 0x7))))
  | .signed16 => some (.operand (.immediate (.signed16 (lowHalf word))))
  | .unsigned16 => some (.operand (.immediate (.unsigned16 (lowHalf word))))
  | .unsigned5 offset =>
      some (.operand (.immediate (.unsigned8 (((word >>> offset) &&& 0x1F).setWidth 8))))
  | .unsignedField field =>
      some (.operand (.immediate (.unsigned8 ((field.read word).setWidth 8))))
  | .signedField field =>
      some (.operand (.immediate (.signed32 (field.readSigned word))))
  | .unsignedFields fields =>
      some (.operand (unsignedOperand (Field.totalLength fields) (Field.gather fields word)))
  | .signedFields fields =>
      some (.operand (.immediate (.signed32 (Field.gatherSigned fields word))))
  | .conditionMask =>
      some (.operand (.immediate (.unsigned8 ((word >>> 12).setWidth 8))))
  | .memory offset =>
      some (.operand (.memory (RegisterCatalog.general (word >>> offset)) (lowHalf word)))
  | .alignedMemory =>
      if word &&& 0x3 = 0 then
        some (.operand (.memory (RegisterCatalog.general (word >>> 16)) (lowHalf word)))
      else
        none
  | .selectedMemory offset =>
      some (.operand (.memory (RegisterCatalog.general (word >>> offset))
        (lowHalf (word &&& 0xFFFC))))
  | .target field => some (.operand (.target (branchTarget site field word)))
  | .recordFlag => some (.setsCr0 (word.getLsbD 0))
  | .recordFlag6 => some (.setsCr0 (word.getLsbD 6))
  | .recordFlag10 => some (.setsCr0 (word.getLsbD 10))
  | .alwaysRecords => some (.setsCr0 true)
  | .only64 => if site.wordWidth = .w64 then some .nothing else none

end DecodeStep

structure DecodeState where
  site : DecodeSite
  /-- The byte order in which diagnostics give a word. -/
  order : ByteOrder
  operands : List Operand
  setsCr0 : Bool
deriving DecidableEq

structure Decoded where
  instruction : Instruction
  diagnostic : Option Diagnostic
deriving DecidableEq

namespace DecodeState

def initial (model : Model) (order : ByteOrder) : DecodeState where
  site := ⟨.ofNat 0, model.wordWidth, .ofModel model⟩
  order := order
  operands := []
  setsCr0 := false

def add (state : DecodeState) : Contribution → DecodeState
  | .operand read => { state with operands := state.operands ++ [read] }
  | .setsCr0 flag => { state with setsCr0 := flag }
  | .nothing => state

/-- Takes one step. There is no next state if the step rejects the word. -/
def takeStep? (state : DecodeState) (word : Word) (step : DecodeStep) : Option DecodeState :=
  (step.evaluate state.site word).map state.add

def run (word : Word) : List DecodeStep → DecodeState → Except DecodeStep DecodeState
  | [], state => .ok state
  | step :: rest, state =>
      match state.takeStep? word step with
      | some next => run word rest next
      | none => .error step

def decoderName : String := "PPCDis"

def start (state : DecodeState) (address : Address) : DecodeState where
  site := { state.site with address := address }
  order := state.order
  operands := []
  setsCr0 := false

def finish (state : DecodeState) (mnemonic : Mnemonic) (tags : InstructionTags) :
    Decoded × DecodeState :=
  (⟨⟨mnemonic, tags, state.site.address, Instruction.encodedLength, state.operands,
      state.setsCr0⟩, none⟩,
    { state with operands := [] })

def refuse (state : DecodeState) (word : Word) (kind : DiagnosticKind) (message : String) :
    Decoded × DecodeState :=
  (⟨.illegal state.site.address,
      some ⟨decoderName, kind, state.site.address, state.order.toBytes word, message⟩⟩,
    { state with operands := [], setsCr0 := false })

def decodeForm (state : DecodeState) (word : Word) (form : InstructionForm) :
    Decoded × DecodeState :=
  match state.run word form.steps with
  | .ok final => final.finish form.mnemonic form.tags
  | .error step =>
      state.refuse word .rejected (form.mnemonic.name ++ " rejected by " ++ step.name)

def decodeTerminal (state : DecodeState) (word : Word) :
    Terminal InstructionForm → Decoded × DecodeState
  | .form form => state.decodeForm word form
  | .unmapped => state.refuse word .unmapped "no decoder for encoding"
  | .unsupported message => state.refuse word .unsupported message

def markZero (word : Word) (instruction : Instruction) : Instruction :=
  if word = 0 then
    { instruction with tags := instruction.tags.union { zero := true } }
  else
    instruction

def decode (state : DecodeState) (tree : DecodeTree InstructionForm) (word : Word)
    (address : Address) : Decoded × DecodeState :=
  let (decoded, next) := (state.start address).decodeTerminal word (tree.reach word)
  ({ decoded with instruction := markZero word decoded.instruction }, next)

end DecodeState

end PowerDisasm
