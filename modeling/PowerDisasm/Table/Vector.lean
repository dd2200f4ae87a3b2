import PowerDisasm.Table.Forms

/-! # Vector instructions

Opcode 4 with 32 vector registers, and the vector loads and stores under opcode
31. Bit 5 of opcode 4 tells the instructions on three sources from the others.
The latter have their opcode in bits 0 to 10, a space that they share with the
loads and stores of 128 registers. -/

namespace PowerDisasm.Table.Vector

open Mnemonic DecodeStep

/-! ## Loads and stores -/

def registerEntries : Entries :=
  let indexed := [vector 21, general 16, general 11]
  [(6, plain lvsl indexed),
   (7, plain lvebx indexed),
   (38, plain lvsr indexed),
   (39, plain lvehx indexed),
   (71, plain lvewx indexed),
   (103, plain lvx indexed),
   (135, plain stvebx indexed),
   (167, plain stvehx indexed),
   (199, plain stvewx indexed),
   (231, plain stvx indexed),
   (359, plain lvxl indexed),
   (487, plain stvxl indexed)]

/-! ## Three sources -/

def onThree : List DecodeStep := [vector 21, vector 16, vector 11, vector 6]

/-- Multiplication and addition name the factors before the summand. -/
def fused : List DecodeStep := [vector 21, vector 16, vector 6, vector 11]

def threeSources : InstructionTree :=
  select (.span 0 6) [
    (32, plain vmhaddshs onThree),
    (33, plain vmhraddshs onThree),
    (34, plain vmladduhm onThree),
    (36, plain vmsumubm onThree),
    (37, plain vmsummbm onThree),
    (38, plain vmsumuhm onThree),
    (39, plain vmsumuhs onThree),
    (40, plain vmsumshm onThree),
    (41, plain vmsumshs onThree),
    (42, plain vsel onThree),
    (43, plain vperm onThree),
    (44, plain vsldoi [vector 21, vector 16, vector 11,
      unsignedField (.span 6 4)]),
    (46, plain vmaddfp fused),
    (47, plain vnmsubfp fused)]

/-! ## Up to two sources -/

def onTwo : List DecodeStep := [vector 21, vector 16, vector 11]

def onOne : List DecodeStep := [vector 21, vector 11]

def withIndex : List DecodeStep :=
  [vector 21, vector 11, unsignedField (.span 16 5)]

def splatImmediate : List DecodeStep :=
  [vector 21, signedField (.span 16 5)]

def arithmeticEntries : Entries := [
  (0, plain vaddubm onTwo),
  (2, plain vmaxub onTwo),
  (4, plain vrlb onTwo),
  (8, plain vmuloub onTwo),
  (10, plain vaddfp onTwo),
  (12, plain vmrghb onTwo),
  (14, plain vpkuhum onTwo),
  (64, plain vadduhm onTwo),
  (66, plain vmaxuh onTwo),
  (68, plain vrlh onTwo),
  (72, plain vmulouh onTwo),
  (74, plain vsubfp onTwo),
  (76, plain vmrghh onTwo),
  (78, plain vpkuwum onTwo),
  (128, plain vadduwm onTwo),
  (130, plain vmaxuw onTwo),
  (132, plain vrlw onTwo),
  (140, plain vmrghw onTwo),
  (142, plain vpkuhus onTwo),
  (206, plain vpkuwus onTwo),
  (258, plain vmaxsb onTwo),
  (260, plain vslb onTwo),
  (264, plain vmulosb onTwo),
  (266, plain vrefp onOne),
  (268, plain vmrglb onTwo),
  (270, plain vpkshus onTwo),
  (322, plain vmaxsh onTwo),
  (324, plain vslh onTwo),
  (328, plain vmulosh onTwo),
  (330, plain vrsqrtefp onOne),
  (332, plain vmrglh onTwo),
  (334, plain vpkswus onTwo),
  (384, plain vaddcuw onTwo),
  (386, plain vmaxsw onTwo),
  (388, plain vslw onTwo),
  (394, plain vexptefp onOne),
  (396, plain vmrglw onTwo),
  (398, plain vpkshss onTwo),
  (452, plain vsl onTwo),
  (458, plain vlogefp onOne),
  (462, plain vpkswss onTwo),
  (512, plain vaddubs onTwo),
  (514, plain vminub onTwo),
  (516, plain vsrb onTwo),
  (520, plain vmuleub onTwo),
  (522, plain vrfin onOne),
  (524, plain vspltb withIndex),
  (526, plain vupkhsb onOne),
  (576, plain vadduhs onTwo),
  (578, plain vminuh onTwo),
  (580, plain vsrh onTwo),
  (584, plain vmuleuh onTwo),
  (586, plain vrfiz onOne),
  (588, plain vsplth withIndex),
  (590, plain vupkhsh onOne),
  (640, plain vadduws onTwo),
  (642, plain vminuw onTwo),
  (644, plain vsrw onTwo),
  (650, plain vrfip onOne),
  (652, plain vspltw withIndex),
  (654, plain vupklsb onOne),
  (708, plain vsr onTwo),
  (714, plain vrfim onOne),
  (718, plain vupklsh onOne),
  (768, plain vaddsbs onTwo),
  (770, plain vminsb onTwo),
  (772, plain vsrab onTwo),
  (776, plain vmulesb onTwo),
  (778, plain vcfux withIndex),
  (780, plain vspltisb splatImmediate),
  (782, plain vpkpx onTwo),
  (832, plain vaddshs onTwo),
  (834, plain vminsh onTwo),
  (836, plain vsrah onTwo),
  (840, plain vmulesh onTwo),
  (842, plain vcfsx withIndex),
  (844, plain vspltish splatImmediate),
  (846, plain vupkhpx onOne),
  (896, plain vaddsws onTwo),
  (898, plain vminsw onTwo),
  (900, plain vsraw onTwo),
  (906, plain vctuxs withIndex),
  (908, plain vspltisw splatImmediate),
  (970, plain vctsxs withIndex),
  (974, plain vupklpx onOne),
  (1024, plain vsububm onTwo),
  (1026, plain vavgub onTwo),
  (1028, plain vand onTwo),
  (1034, plain vmaxfp onTwo),
  (1036, plain vslo onTwo),
  (1088, plain vsubuhm onTwo),
  (1090, plain vavguh onTwo),
  (1092, plain vandc onTwo),
  (1098, plain vminfp onTwo),
  (1100, plain vsro onTwo),
  (1152, plain vsubuwm onTwo),
  (1154, plain vavguw onTwo),
  (1156, plain vor onTwo),
  (1220, plain vxor onTwo),
  (1282, plain vavgsb onTwo),
  (1284, plain vnor onTwo),
  (1346, plain vavgsh onTwo),
  (1408, plain vsubcuw onTwo),
  (1410, plain vavgsw onTwo),
  (1536, plain vsububs onTwo),
  (1540, plain mfvscr [vector 21]),
  (1544, plain vsum4ubs onTwo),
  (1600, plain vsubuhs onTwo),
  (1604, plain mtvscr [vector 11]),
  (1608, plain vsum4shs onTwo),
  (1664, plain vsubuws onTwo),
  (1672, plain vsum2sws onTwo),
  (1792, plain vsubsbs onTwo),
  (1800, plain vsum4sbs onTwo),
  (1856, plain vsubshs onTwo),
  (1920, plain vsubsws onTwo),
  (1928, plain vsumsws onTwo)]

/-- Comparisons. Bit 10 is their record flag and the top bit of the opcode, so
that each has two opcodes. -/
def comparisons : List (Nat × Mnemonic) := [
  (6, vcmpequb),
  (70, vcmpequh),
  (134, vcmpequw),
  (198, vcmpeqfp),
  (454, vcmpgefp),
  (518, vcmpgtub),
  (582, vcmpgtuh),
  (646, vcmpgtuw),
  (710, vcmpgtfp),
  (774, vcmpgtsb),
  (838, vcmpgtsh),
  (902, vcmpgtsw),
  (966, vcmpbfp)]

def comparisonEntries : Entries :=
  comparisons.flatMap fun comparison =>
    let entry := plain comparison.2 (onTwo ++ [recordFlag10])
    [(comparison.1, entry), (comparison.1 + 1024, entry)]

/-- Opcode 4, with further entries among the instructions on up to two sources. -/
def group (further : Entries) : InstructionTree :=
  choose (.bit 5)
    (select (.span 0 11)
      (arithmeticEntries ++ comparisonEntries ++ further))
    threeSources

end PowerDisasm.Table.Vector
