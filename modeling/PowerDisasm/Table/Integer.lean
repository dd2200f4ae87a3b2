import PowerDisasm.Table.Forms

/-! # Integer arithmetic, logic and comparisons

The integer instructions with immediates, the 64-bit rotations of opcode 30,
and the entries that integer instructions on registers have under opcode 31. -/

namespace PowerDisasm.Table.Integer

open Mnemonic DecodeStep

/-! ## Immediates -/

def onSigned : List DecodeStep := [general 21, general 16, signed16]

/-- Target, source, unsigned immediate; the source has the higher bits. -/
def onUnsigned : List DecodeStep := [general 16, general 21, unsigned16]

/-- A comparison with an immediate, of words or doublewords by bit 21. -/
def compareImmediate (words doublewords : Mnemonic) (immediate : DecodeStep) :
    InstructionTree :=
  choose (.bit 21)
    (plain words [comparisonResult, general 16, immediate])
    (plain doublewords [only64, comparisonResult, general 16, immediate])

def rotateSteps (amount : DecodeStep) : List DecodeStep :=
  [general 16, general 21, amount, unsigned5 6, unsigned5 1, recordFlag]

def primaryEntries : Entries := [
  (2, trap tdi [only64, unsigned5 21, general 16, signed16]),
  (3, trap twi [unsigned5 21, general 16, signed16]),
  (7, plain mulli onSigned),
  (8, plain subfic onSigned),
  (10, compareImmediate cmplwi cmpldi unsigned16),
  (11, compareImmediate cmpwi cmpdi signed16),
  (12, plain addic onSigned),
  (13, plain addic (onSigned ++ [alwaysRecords])),
  (14, plain addi onSigned),
  (15, plain addis onSigned),
  (20, plain rlwimi (rotateSteps (unsigned5 11))),
  (21, plain rlwinm (rotateSteps (unsigned5 11))),
  (23, plain rlwnm (rotateSteps (general 11))),
  (24, plain ori onUnsigned),
  (25, plain oris onUnsigned),
  (26, plain xori onUnsigned),
  (27, plain xoris onUnsigned),
  (28, plain andi (onUnsigned ++ [alwaysRecords])),
  (29, plain andis (onUnsigned ++ [alwaysRecords]))]

/-- Opcode 30: rotations of doublewords, by an immediate amount or, where bits 2
to 4 hold four, by a register. -/
def rotate64 : InstructionTree :=
  let byAmount (mnemonic : Mnemonic) := plain mnemonic
    [only64, general 16, general 21, unsignedFields shiftAmount, unsignedFields maskBound,
      recordFlag]
  let byRegister (mnemonic : Mnemonic) := plain mnemonic
    [only64, general 16, general 21, general 11, unsignedFields maskBound, recordFlag]
  .dense [.span 2 3] [byAmount rldicl, byAmount rldicr, byAmount rldic,
    byAmount rldimi, choose (.bit 1) (byRegister rldcl) (byRegister rldcr)]

/-! ## Arithmetic on registers -/

/-- An arithmetic instruction and its twin that also records an overflow. The
twin has bit 10 set, which is the top bit of the extended opcode. -/
structure OverflowPair where
  opcode : Nat
  plain : Mnemonic
  recording : Mnemonic
  steps : List DecodeStep

def OverflowPair.entries (pair : OverflowPair) : Entries :=
  [(pair.opcode, Table.plain pair.plain pair.steps),
   (pair.opcode + 512, Table.plain pair.recording pair.steps)]

def onTwo : List DecodeStep := [general 21, general 16, general 11, recordFlag]

def onOne : List DecodeStep := [general 21, general 16, recordFlag]

def overflowPairs : List OverflowPair := [
  ⟨8, subfc, subfco, onTwo⟩,
  ⟨10, addc, addco, onTwo⟩,
  ⟨40, subf, subfo, onTwo⟩,
  ⟨104, neg, nego, onOne⟩,
  ⟨136, subfe, subfeo, onTwo⟩,
  ⟨138, adde, addeo, onTwo⟩,
  ⟨200, subfze, subfzeo, onOne⟩,
  ⟨202, addze, addzeo, onOne⟩,
  ⟨232, subfme, subfmeo, onOne⟩,
  ⟨234, addme, addmeo, onOne⟩,
  ⟨235, mullw, mullwo, onTwo⟩,
  ⟨266, add, addo, onTwo⟩,
  ⟨459, divwu, divwuo, onTwo⟩,
  ⟨491, divw, divwo, onTwo⟩,
  ⟨233, mulld, mulldo, only64 :: onTwo⟩,
  ⟨457, divdu, divduo, only64 :: onTwo⟩,
  ⟨489, divd, divdo, only64 :: onTwo⟩]

def highProducts : Entries := [
  (9, plain mulhdu (only64 :: onTwo)),
  (11, plain mulhwu onTwo),
  (73, plain mulhd (only64 :: onTwo)),
  (75, plain mulhw onTwo)]

/-! ## Logic and shifts on registers -/

/-- Target in bits 16 to 20, sources in bits 21 to 25 and 11 to 15. -/
def logic : List DecodeStep := [general 16, general 21, general 11, recordFlag]

def unary : List DecodeStep := [general 16, general 21, recordFlag]

/-- The amount of an arithmetic shift of a doubleword takes bit 1, so that the
instruction has two extended opcodes. -/
def shiftRight64 : InstructionTree :=
  plain sradi [only64, general 16, general 21, unsignedFields shiftAmount, recordFlag]

def logicEntries : Entries := [
  (24, plain slw logic),
  (26, plain cntlzw unary),
  (27, plain sld (only64 :: logic)),
  (28, plain and logic),
  (58, plain cntlzd (only64 :: unary)),
  (60, plain andc logic),
  (124, plain nor logic),
  (284, plain eqv logic),
  (316, plain xor logic),
  (412, plain orc logic),
  (444, plain or logic),
  (476, plain nand logic),
  (536, plain srw logic),
  (539, plain srd (only64 :: logic)),
  (792, plain sraw logic),
  (794, plain srad (only64 :: logic)),
  (824, plain srawi [general 16, general 21, unsigned5 11, recordFlag]),
  (826, shiftRight64),
  (827, shiftRight64),
  (922, plain extsh unary),
  (954, plain extsb unary),
  (986, plain extsw (only64 :: unary))]

/-! ## Comparisons and traps on registers -/

def compare (words doublewords : Mnemonic) : InstructionTree :=
  let steps := [comparisonResult, general 16, general 11]
  choose (.bit 21) (plain words steps) (plain doublewords (only64 :: steps))

def comparisonEntries : Entries :=
  let onCondition := [unsigned5 21, general 16, general 11]
  [(0, compare cmpw cmpd),
   (4, trap tw onCondition),
   (32, compare cmplw cmpld),
   (68, trap td (only64 :: onCondition))]

def registerEntries : Entries :=
  overflowPairs.flatMap OverflowPair.entries ++ highProducts ++ logicEntries ++
    comparisonEntries

end PowerDisasm.Table.Integer
