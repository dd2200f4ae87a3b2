import PowerDisasm.Address
import PowerDisasm.Register

/-! # Operands

What an instruction works on: a register, an immediate value that keeps the
width and the sign it was decoded with, a place in memory relative to a base
register, or the address a branch goes to. -/

namespace PowerDisasm

inductive Immediate where
  | unsigned8 (value : BitVec 8)
  | signed16 (value : BitVec 16)
  | unsigned16 (value : BitVec 16)
  | signed32 (value : BitVec 32)
  | unsigned32 (value : BitVec 32)
deriving DecidableEq

namespace Immediate

def value : Immediate → Int
  | .unsigned8 value => value.toNat
  | .signed16 value => value.toInt
  | .unsigned16 value => value.toNat
  | .signed32 value => value.toInt
  | .unsigned32 value => value.toNat

/-- Bytes and signed values are decimal, wider unsigned values hexadecimal. -/
def text : Immediate → String
  | .unsigned8 value => Numeral.decimal value.toNat
  | .signed16 value => Numeral.signed value.toInt
  | .signed32 value => Numeral.signed value.toInt
  | .unsigned16 value => "0x" ++ Numeral.upperHex 0 value.toNat
  | .unsigned32 value => "0x" ++ Numeral.upperHex 0 value.toNat

end Immediate

inductive Operand where
  | register (named : Register)
  | immediate (literal : Immediate)
  | memory (base : Register) (displacement : BitVec 16)
  | target (address : Address)
deriving DecidableEq

namespace Operand

def accessBytes : Nat := 4

def register? : Operand → Option Register
  | .register named => some named
  | _ => none

def immediate? : Operand → Option Immediate
  | .immediate literal => some literal
  | _ => none

def text : Operand → String
  | .register named => named.text
  | .immediate literal => literal.text
  | .memory base displacement =>
      Numeral.signed displacement.toInt ++ "(" ++ base.text ++ ")"
  | .target address => address.markedText

example : (memory (.general 1) (-8)).text = "-8(r1)" := by decide
example : (immediate (.unsigned16 0x80FF)).text = "0x80FF" := by decide
example : (target (.ofNat 0x100)).text = "0x00000100" := by decide

end Operand

end PowerDisasm
