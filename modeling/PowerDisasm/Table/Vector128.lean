import PowerDisasm.Table.Forms

/-! # Vector instructions on 128 registers

Opcodes 5 and 6, and the loads and stores that share opcode 4. A register
number of seven bits is scattered over the word, so the keys here leave out
the bits 0 to 3, 5 and 10 wherever these belong to a register. -/

namespace PowerDisasm.Table.Vector128

open Mnemonic DecodeStep

def onTwo : List DecodeStep := [vectorTarget128, vectorFirst128, vectorSecond128]

def onOne : List DecodeStep := [vectorTarget128, vectorSecond128]

def withIndex : List DecodeStep :=
  onOne ++ [unsignedField (.span 16 5)]

/-! ## Loads and stores -/

/-- Loads and stores with the opcode in bits 4 to 10. -/
def storage : List (Nat × Mnemonic) := [
  (0, lvsl128),
  (4, lvsr128),
  (8, lvewx128),
  (12, lvx128),
  (24, stvewx128),
  (28, stvx128),
  (44, lvxl128),
  (60, stvxl128),
  (64, lvlx128),
  (68, lvrx128),
  (80, stvlx128),
  (84, stvrx128),
  (96, lvlxl128),
  (100, lvrxl128),
  (112, stvlxl128),
  (116, stvrxl128)]

/-- The entries of a load or store among the keys of bits 0 to 10. Bits 0 and 1
are set; bits 2 and 3 belong to the register, so that there is an entry for
each of their values. -/
def storageEntries : Entries :=
  storage.flatMap fun instruction =>
    [0, 1, 2, 3].map fun high =>
      (instruction.1 * 16 + high * 4 + 3,
        plain instruction.2 [vectorTarget128, general 16, general 11])

/-! ## Opcode 5 -/

def packs : InstructionTree :=
  .dense [.span 6 3] [
    plain vpkshss128 onTwo,
    plain vpkshus128 onTwo,
    plain vpkswss128 onTwo,
    plain vpkswus128 onTwo,
    plain vpkuhum128 onTwo,
    plain vpkuhus128 onTwo,
    plain vpkuwum128 onTwo,
    plain vpkuwus128 onTwo]

def permutes : InstructionTree :=
  choose (.bit 9) (plain vperm128 (onTwo ++ [vectorControl128])) packs

def arithmetic : InstructionTree :=
  .dense [.span 6 4] [
    plain vaddfp128 onTwo,
    plain vsubfp128 onTwo,
    plain vmulfp128 onTwo,
    plain vmaddfp128 onTwo,
    plain vmaddcfp128 onTwo,
    plain vnmsubfp128 onTwo,
    plain vmsum3fp128 onTwo,
    plain vmsum4fp128 onTwo,
    plain vand128 onTwo,
    plain vandc128 onTwo,
    plain vnor128 onTwo,
    plain vor128 onTwo,
    plain vxor128 onTwo,
    plain vsel128 onTwo,
    plain vslo128 onTwo,
    plain vsro128 onTwo]

/-- Opcode 5. -/
def permuteGroup : InstructionTree :=
  choose (.bit 4) permutes arithmetic

/-! ## Opcode 6 -/

/-- A comparison, which has its record flag in bit 6. -/
def compare (mnemonic : Mnemonic) : InstructionTree :=
  plain mnemonic (onTwo ++ [recordFlag6])

def comparisons : InstructionTree :=
  .dense [.span 7 3] [
    compare vcmpeqfp128,
    compare vcmpgefp128,
    compare vcmpgtfp128,
    compare vcmpbfp128,
    compare vcmpequw128,
    choose (.bit 6) (plain vmaxfp128 onTwo) (plain vminfp128 onTwo),
    choose (.bit 6) (plain vmrghw128 onTwo) (plain vmrglw128 onTwo),
    choose (.bit 6) (plain vupkhsb128 onOne) (plain vupklsb128 onOne)]

def shifts : InstructionTree :=
  select (.span 6 4) [
    (1, plain vrlw128 onTwo),
    (3, plain vslw128 onTwo),
    (5, plain vsraw128 onTwo),
    (7, plain vsrw128 onTwo),
    (8, .unsupported "vpkd3d128"),
    (12, .unsupported "vrlimi128")]

def conversions : InstructionTree :=
  select (.span 6 5) [
    (8, plain vcfpsxws128 withIndex),
    (9, plain vcfpuxws128 withIndex),
    (10, plain vcsxwfp128 withIndex),
    (11, plain vcuxwfp128 withIndex),
    (12, plain vrfim128 onOne),
    (13, plain vrfin128 onOne),
    (14, plain vrfip128 onOne),
    (15, plain vrfiz128 onOne),
    (24, plain vrefp128 onOne),
    (25, plain vrsqrtefp128 onOne),
    (26, plain vexptefp128 onOne),
    (27, plain vlogefp128 onOne),
    (28, plain vspltw128 withIndex),
    (29, plain vspltisw128 [vectorTarget128, signedField (.span 16 5)]),
    (31, .unsupported "vupkd3d128")]

/-- Opcode 6. -/
def compareGroup : InstructionTree :=
  choose (.bit 4) comparisons (choose (.bit 5) shifts conversions)

end PowerDisasm.Table.Vector128
