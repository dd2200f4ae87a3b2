import PowerDisasm.DecodeState
import PowerDisasm.Diagnostic.Collector

/-! # Decode sessions

A session is a decode state at work, together with the collector it reports to.
Between the words that are decoded, single steps may be taken in it. Such a step
changes the session in place and tells whether it accepts the word. If it does
not, nothing that it wrote is taken back, and the next step goes on from there. -/

namespace PowerDisasm

structure StepUse where
  step : DecodeStep
  word : Word
deriving DecidableEq

structure DecodeSession where
  state : DecodeState
  collector : Collector
deriving DecidableEq

namespace DecodeSession

def initial (model : Model) (order : ByteOrder) : DecodeSession :=
  ⟨.initial model order, .empty⟩

def site (session : DecodeSession) : DecodeSite :=
  session.state.site

def decode (session : DecodeSession) (tree : DecodeTree InstructionForm) (word : Word)
    (address : Address) : Instruction × DecodeSession :=
  let (decoded, state) := session.state.decode tree word address
  (decoded.instruction,
    ⟨state, decoded.diagnostic.elim session.collector session.collector.report⟩)

def takeDiagnostics (session : DecodeSession) : List Diagnostic × DecodeSession :=
  let (taken, collector) := session.collector.take
  (taken, { session with collector := collector })

/-! ## Single steps -/

def push (session : DecodeSession) (read : Operand) : DecodeSession :=
  { session with state := { session.state with operands := session.state.operands ++ [read] } }

def pushRegister (session : DecodeSession) (named : Register) : DecodeSession :=
  session.push (.register named)

def pushImmediate (session : DecodeSession) (literal : Immediate) : DecodeSession :=
  session.push (.immediate literal)

def pushMemory (session : DecodeSession) (base : Word) (displacement : BitVec 16) :
    DecodeSession :=
  session.push (.memory (RegisterCatalog.general base) displacement)

def setCr0 (session : DecodeSession) (flag : Bool) : DecodeSession :=
  { session with state := { session.state with setsCr0 := flag } }

open DecodeStep in
/-- Takes one step: whether it accepts the word, and the session behind it. -/
def takeStep (session : DecodeSession) (use : StepUse) : Bool × DecodeSession :=
  let word := use.word
  let registers := session.site.registers
  match use.step with
  | .general offset => (true, session.pushRegister (RegisterCatalog.general (word >>> offset)))
  | .floating offset => (true, session.pushRegister (RegisterCatalog.floating (word >>> offset)))
  | .floatingPair offset =>
      let first := RegisterCatalog.floating (word >>> offset)
      if first.number % 2 ≠ 0 then (false, session) else (true, session.pushRegister first)
  | .vector offset => (true, session.pushRegister (registers.vector ((word >>> offset) &&& 0x1F)))
  | .condition offset => (true, session.pushRegister (RegisterCatalog.condition (word >>> offset)))
  | .comparisonResult => (true, session.pushRegister (RegisterCatalog.condition (word >>> 23)))
  | .special =>
      let number := specialNumber word
      match registers.special? number with
      | some named => (true, session.pushRegister named)
      | none => (true, session.pushImmediate (.unsigned32 (BitVec.ofNat 32 number)))
  | .vectorTarget128 =>
      (true, session.pushRegister (registers.vector
        (((word >>> 21) &&& 0x1F) ||| ((word &&& 0xC) <<< 3))))
  | .vectorFirst128 =>
      (true, session.pushRegister (registers.vector
        (((word >>> 16) &&& 0x1F) ||| ((word >>> 4) &&& 0x40) ||| (word &&& 0x20))))
  | .vectorSecond128 =>
      (true, session.pushRegister (registers.vector
        (((word >>> 11) &&& 0x1F) ||| ((word &&& 0x3) <<< 5))))
  | .vectorControl128 => (true, session.pushRegister (registers.vector ((word >>> 6) &&& 0x7)))
  | .signed16 => (true, session.pushImmediate (.signed16 (lowHalf word)))
  | .unsigned16 => (true, session.pushImmediate (.unsigned16 (lowHalf word)))
  | .unsigned5 offset =>
      (true, session.pushImmediate (.unsigned8 (((word >>> offset) &&& 0x1F).setWidth 8)))
  | .unsignedField field =>
      (true, session.pushImmediate (.unsigned8 ((field.read word).setWidth 8)))
  | .signedField field => (true, session.pushImmediate (.signed32 (field.readSigned word)))
  | .unsignedFields fields =>
      let value := Field.gather fields word
      if Field.totalLength fields ≤ 8 then
        (true, session.pushImmediate (.unsigned8 (value.setWidth 8)))
      else
        (true, session.pushImmediate (.unsigned32 value))
  | .signedFields fields =>
      (true, session.pushImmediate (.signed32 (Field.gatherSigned fields word)))
  | .conditionMask => (true, session.pushImmediate (.unsigned8 ((word >>> 12).setWidth 8)))
  | .memory offset => (true, session.pushMemory (word >>> offset) (lowHalf word))
  | .alignedMemory =>
      if word &&& 0x3 ≠ 0 then (false, session)
      else (true, session.pushMemory (word >>> 16) (lowHalf word))
  | .selectedMemory offset =>
      (true, session.pushMemory (word >>> offset) (lowHalf (word &&& 0xFFFC)))
  | .target field => (true, session.push (.target (branchTarget session.site field word)))
  | .recordFlag => (true, session.setCr0 (word.getLsbD 0))
  | .recordFlag6 => (true, session.setCr0 (word.getLsbD 6))
  | .recordFlag10 => (true, session.setCr0 (word.getLsbD 10))
  | .alwaysRecords => (true, session.setCr0 true)
  | .only64 => (session.site.wordWidth = .w64, session)

def takeSteps : List StepUse → DecodeSession → List Bool × DecodeSession
  | [], session => ([], session)
  | use :: rest, session =>
      let (accepted, next) := session.takeStep use
      let (others, last) := takeSteps rest next
      (accepted :: others, last)

end DecodeSession

end PowerDisasm
