import PowerDisasm.Table.Forms

/-! # Loads and stores

Loads and stores of general and floating-point registers, with a displacement
under a primary opcode of their own or with an index under opcode 31. -/

namespace PowerDisasm.Table.Storage

open Mnemonic DecodeStep

/-! ## Displacements -/

def ofGeneral : List DecodeStep := [general 21, memory 16]

def ofFloating : List DecodeStep := [floating 21, memory 16]

def ofPair : List DecodeStep := [floatingPair 21, alignedMemory]

def ofDoubleword : List DecodeStep := [only64, general 21, selectedMemory 16]

/-- The two bits that tell the doubleword instructions of one opcode apart. -/
def selector : Field := .span 0 2

def primaryEntries : Entries := [
  (32, plain lwz ofGeneral),
  (33, plain lwzu ofGeneral),
  (34, plain lbz ofGeneral),
  (35, plain lbzu ofGeneral),
  (36, plain stw ofGeneral),
  (37, plain stwu ofGeneral),
  (38, plain stb ofGeneral),
  (39, plain stbu ofGeneral),
  (40, plain lhz ofGeneral),
  (41, plain lhzu ofGeneral),
  (42, plain lha ofGeneral),
  (43, plain lhau ofGeneral),
  (44, plain sth ofGeneral),
  (45, plain sthu ofGeneral),
  (46, plain lmw ofGeneral),
  (47, plain stmw ofGeneral),
  (48, plain lfs ofFloating),
  (49, plain lfsu ofFloating),
  (50, plain lfd ofFloating),
  (51, plain lfdu ofFloating),
  (52, plain stfs ofFloating),
  (53, plain stfsu ofFloating),
  (54, plain stfd ofFloating),
  (55, plain stfdu ofFloating),
  (57, plain lfdp ofPair),
  (58, .dense [selector] [plain ld ofDoubleword, plain ldu ofDoubleword,
    plain lwa ofDoubleword]),
  (61, plain stfdp ofPair),
  (62, .dense [selector] [plain std ofDoubleword, plain stdu ofDoubleword])]

/-! ## Indices -/

def indexed : List DecodeStep := [general 21, general 16, general 11]

def indexed64 : List DecodeStep := only64 :: indexed

def floatingIndexed : List DecodeStep := [floating 21, general 16, general 11]

def registerEntries : Entries := [
  (20, plain lwarx indexed),
  (21, plain ldx indexed64),
  (23, plain lwzx indexed),
  (53, plain ldux indexed64),
  (55, plain lwzux indexed),
  (84, plain ldarx indexed64),
  (87, plain lbzx indexed),
  (119, plain lbzux indexed),
  (149, plain stdx indexed64),
  (150, plain stwcx (indexed ++ [alwaysRecords])),
  (151, plain stwx indexed),
  (181, plain stdux indexed64),
  (183, plain stwux indexed),
  (214, plain stdcx (indexed64 ++ [alwaysRecords])),
  (215, plain stbx indexed),
  (247, plain stbux indexed),
  (279, plain lhzx indexed),
  (311, plain lhzux indexed),
  (341, plain lwax indexed64),
  (343, plain lhax indexed),
  (375, plain lhaux indexed),
  (407, plain sthx indexed),
  (439, plain sthux indexed),
  (534, plain lwbrx indexed),
  (535, plain lfsx floatingIndexed),
  (567, plain lfsux floatingIndexed),
  (599, plain lfdx floatingIndexed),
  (631, plain lfdux floatingIndexed),
  (662, plain stwbrx indexed),
  (663, plain stfsx floatingIndexed),
  (695, plain stfsux floatingIndexed),
  (727, plain stfdx floatingIndexed),
  (759, plain stfdux floatingIndexed),
  (790, plain lhbrx indexed),
  (918, plain sthbrx indexed),
  (983, plain stfiwx floatingIndexed)]

end PowerDisasm.Table.Storage
