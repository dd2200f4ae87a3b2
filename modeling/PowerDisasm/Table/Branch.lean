import PowerDisasm.Table.Forms

/-! # Branches and condition register logic

Branches to a displacement (opcodes 16 and 18) and the group of opcode 19:
branches to a register, returns from interrupts, and logic on condition bits.
Bit 0 of a branch makes it a call, bit 1 makes its target absolute. -/

namespace PowerDisasm.Table.Branch

open Mnemonic DecodeStep

def jump : InstructionTags := { transfer := true }

def call : InstructionTags := { transfer := true, call := true }

def conditional : InstructionTags := { transfer := true, conditional := true }

def conditionalCall : InstructionTags :=
  { transfer := true, conditional := true, call := true }

def indirect : InstructionTags :=
  { transfer := true, conditional := true, indirect := true }

def interruptReturn : InstructionTags :=
  { transfer := true, ret := true, privileged := true }

/-- The call and absolute bits. -/
def variant : Field := .span 0 2

/-- Opcode 18. -/
def unconditional : InstructionTree :=
  let steps := [target (.span 2 24)]
  .dense [variant] [tagged jump b steps, tagged call bl steps, tagged jump ba steps,
    tagged call bla steps]

/-- Opcode 16, with the condition in front of the target. -/
def onCondition : InstructionTree :=
  let steps := [unsigned5 21, unsigned5 16, target (.span 2 14)]
  .dense [variant] [tagged conditional bc steps, tagged conditionalCall bcl steps,
    tagged conditional bca steps, tagged conditionalCall bcla steps]

def conditionLogic (mnemonic : Mnemonic) : InstructionTree :=
  plain mnemonic [unsigned5 21, unsigned5 16, unsigned5 11]

/-- Opcode 19, by the extended opcode. -/
def registerGroup : InstructionTree :=
  let onBits := [unsigned5 21, unsigned5 16]
  select extendedOpcode [
    (0, plain mcrf [condition 23, condition 18]),
    (16, choose (.bit 0)
      (tagged (indirect.union { ret := true }) bclr onBits)
      (tagged (indirect.union { call := true }) bclrl onBits)),
    (18, tagged interruptReturn rfid [only64]),
    (33, conditionLogic crnor),
    (50, tagged interruptReturn rfi []),
    (129, conditionLogic crandc),
    (150, plain isync []),
    (193, conditionLogic crxor),
    (225, conditionLogic crnand),
    (257, conditionLogic crand),
    (289, conditionLogic creqv),
    (417, conditionLogic crorc),
    (449, conditionLogic cror),
    (528, choose (.bit 0)
      (tagged indirect bcctr onBits)
      (tagged (indirect.union { call := true }) bcctrl onBits))]

end PowerDisasm.Table.Branch
