import PowerDisasm.Table.Forms

/-! # Caches and special-purpose registers

The instructions under opcode 31 that manage caches and address translation,
or move the condition register and special-purpose registers. -/

namespace PowerDisasm.Table.System

open Mnemonic DecodeStep

def cacheEntries : Entries :=
  let place := [general 16, general 11]
  [(54, plain dcbst place),
   (86, plain dcbf place),
   (246, plain dcbtst place),
   (278, plain dcbt place),
   (470, privileged dcbi place),
   (982, plain icbi place),
   (1014, plain dcbz place)]

def registerMoves : Entries :=
  let segment := unsignedField (.span 16 4)
  [(19, plain mfcr [general 21]),
   (83, privileged mfmsr [general 21]),
   (144, plain mtcrf [conditionMask, general 21]),
   (146, privileged mtmsr [general 21]),
   (210, privileged mtsr [segment, general 21]),
   (306, privileged tlbie [general 11]),
   (339, plain mfspr [general 21, special]),
   (371, plain mftb [general 21, special]),
   (467, plain mtspr [special, general 21]),
   (512, plain mcrxr [condition 23]),
   (566, privileged tlbsync []),
   (595, privileged mfsr [general 21, segment]),
   (598, plain sync []),
   (854, plain eieio [])]

def registerEntries : Entries :=
  cacheEntries ++ registerMoves

end PowerDisasm.Table.System
