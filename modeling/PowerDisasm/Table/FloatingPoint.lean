import PowerDisasm.Table.Forms

/-! # Floating-point arithmetic

Single precision under opcode 59 and double precision under opcode 63. Bit 5
of opcode 63 tells the arithmetic instructions, which have four operand fields,
from the others. -/

namespace PowerDisasm.Table.FloatingPoint

open Mnemonic DecodeStep

def onTwo : List DecodeStep := [floating 21, floating 16, floating 11, recordFlag]

def onOne : List DecodeStep := [floating 21, floating 11, recordFlag]

def product : List DecodeStep := [floating 21, floating 16, floating 6, recordFlag]

def fused : List DecodeStep :=
  [floating 21, floating 16, floating 6, floating 11, recordFlag]

def arithmeticOpcode : Field := .span 1 5

/-- Opcode 59. -/
def single : InstructionTree :=
  select arithmeticOpcode [
    (18, plain fdivs onTwo),
    (20, plain fsubs onTwo),
    (21, plain fadds onTwo),
    (22, plain fsqrts onOne),
    (24, plain fres onOne),
    (25, plain fmuls product),
    (28, plain fmsubs fused),
    (29, plain fmadds fused),
    (30, plain fnmsubs fused),
    (31, plain fnmadds fused)]

def doubleArithmetic : InstructionTree :=
  select arithmeticOpcode [
    (18, plain fdiv onTwo),
    (20, plain fsub onTwo),
    (21, plain fadd onTwo),
    (22, plain fsqrt onOne),
    (23, plain fsel fused),
    (25, plain fmul product),
    (26, plain frsqrte onOne),
    (28, plain fmsub fused),
    (29, plain fmadd fused),
    (30, plain fnmsub fused),
    (31, plain fnmadd fused)]

def doubleControl : InstructionTree :=
  let compare := [condition 23, floating 16, floating 11]
  select extendedOpcode [
    (0, plain fcmpu compare),
    (12, plain frsp onOne),
    (14, plain fctiw onOne),
    (15, plain fctiwz onOne),
    (32, plain fcmpo compare),
    (38, plain mtfsb1 [unsigned5 21, recordFlag]),
    (40, plain fneg onOne),
    (64, plain mcrfs [condition 23, condition 18]),
    (70, plain mtfsb0 [unsigned5 21, recordFlag]),
    (72, plain fmr onOne),
    (134, plain mtfsfi [condition 23, unsignedField (.span 12 4),
      recordFlag]),
    (136, plain fnabs onOne),
    (264, plain fabs onOne),
    (583, plain mffs [floating 21, recordFlag]),
    (711, plain mtfsf [unsignedField (.span 17 8), floating 11,
      recordFlag]),
    (814, plain fctid onOne),
    (815, plain fctidz onOne),
    (846, plain fcfid onOne)]

/-- Opcode 63. -/
def double : InstructionTree :=
  choose (.bit 5) doubleControl doubleArithmetic

end PowerDisasm.Table.FloatingPoint
