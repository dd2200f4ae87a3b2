/-! # Mnemonics

The names of the instructions. The form of an instruction that also records
its result in the condition register has no mnemonic of its own. -/

namespace PowerDisasm

/-- `illegal` stands for every encoding that is no instruction. -/
inductive Mnemonic where
  | illegal | add | addc | addco | adde | addeo | addi | addic | addis | addme | addmeo | addo
  | addze | addzeo | and | andc | andi | andis | b | ba | bc | bca | bcctr | bcctrl | bcl
  | bcla | bclr | bclrl | bl | bla | cmpd | cmpdi | cmpld | cmpldi | cmplw | cmplwi | cmpw
  | cmpwi | cntlzd | cntlzw | crand | crandc | creqv | crnand | crnor | cror | crorc | crxor
  | dcbf | dcbi | dcbst | dcbt | dcbtst | dcbz | divd | divdo | divdu | divduo | divw | divwo
  | divwu | divwuo | eieio | eqv | extsb | extsh | extsw | fabs | fadd | fadds | fcfid | fcmpo
  | fcmpu | fctid | fctidz | fctiw | fctiwz | fdiv | fdivs | fmadd | fmadds | fmr | fmsub
  | fmsubs | fmul | fmuls | fnabs | fneg | fnmadd | fnmadds | fnmsub | fnmsubs | fres | frsp
  | frsqrte | fsel | fsqrt | fsqrts | fsub | fsubs | icbi | isync | lbz | lbzu | lbzux | lbzx
  | ld | ldarx | ldu | ldux | ldx | lfd | lfdp | lfdu | lfdux | lfdx | lfs | lfsu | lfsux
  | lfsx | lha | lhau | lhaux | lhax | lhbrx | lhz | lhzu | lhzux | lhzx | lmw | lvebx | lvehx
  | lvewx | lvewx128 | lvlx128 | lvlxl128 | lvrx128 | lvrxl128 | lvsl | lvsl128 | lvsr
  | lvsr128 | lvx | lvx128 | lvxl | lvxl128 | lwa | lwarx | lwax | lwbrx | lwz | lwzu | lwzux
  | lwzx | mcrf | mcrfs | mcrxr | mfcr | mffs | mfmsr | mfspr | mfsr | mftb | mfvscr | mtcrf
  | mtfsb0 | mtfsb1 | mtfsf | mtfsfi | mtmsr | mtspr | mtsr | mtvscr | mulhd | mulhdu | mulhw
  | mulhwu | mulld | mulldo | mulli | mullw | mullwo | nand | neg | nego | nor | or | orc | ori
  | oris | rfi | rfid | rldcl | rldcr | rldic | rldicl | rldicr | rldimi | rlwimi | rlwinm
  | rlwnm | sc | sld | slw | srad | sradi | sraw | srawi | srd | srw | stb | stbu | stbux
  | stbx | std | stdcx | stdu | stdux | stdx | stfd | stfdp | stfdu | stfdux | stfdx | stfiwx
  | stfs | stfsu | stfsux | stfsx | sth | sthbrx | sthu | sthux | sthx | stmw | stvebx | stvehx
  | stvewx | stvewx128 | stvlx128 | stvlxl128 | stvrx128 | stvrxl128 | stvx | stvx128 | stvxl
  | stvxl128 | stw | stwbrx | stwcx | stwu | stwux | stwx | subf | subfc | subfco | subfe
  | subfeo | subfic | subfme | subfmeo | subfo | subfze | subfzeo | sync | td | tdi | tlbie
  | tlbsync | tw | twi | vaddcuw | vaddfp | vaddfp128 | vaddsbs | vaddshs | vaddsws | vaddubm
  | vaddubs | vadduhm | vadduhs | vadduwm | vadduws | vand | vand128 | vandc | vandc128
  | vavgsb | vavgsh | vavgsw | vavgub | vavguh | vavguw | vcfpsxws128 | vcfpuxws128 | vcfsx
  | vcfux | vcmpbfp | vcmpbfp128 | vcmpeqfp | vcmpeqfp128 | vcmpequb | vcmpequh | vcmpequw
  | vcmpequw128 | vcmpgefp | vcmpgefp128 | vcmpgtfp | vcmpgtfp128 | vcmpgtsb | vcmpgtsh
  | vcmpgtsw | vcmpgtub | vcmpgtuh | vcmpgtuw | vcsxwfp128 | vctsxs | vctuxs | vcuxwfp128
  | vexptefp | vexptefp128 | vlogefp | vlogefp128 | vmaddcfp128 | vmaddfp | vmaddfp128 | vmaxfp
  | vmaxfp128 | vmaxsb | vmaxsh | vmaxsw | vmaxub | vmaxuh | vmaxuw | vmhaddshs | vmhraddshs
  | vminfp | vminfp128 | vminsb | vminsh | vminsw | vminub | vminuh | vminuw | vmladduhm
  | vmrghb | vmrghh | vmrghw | vmrghw128 | vmrglb | vmrglh | vmrglw | vmrglw128 | vmsum3fp128
  | vmsum4fp128 | vmsummbm | vmsumshm | vmsumshs | vmsumubm | vmsumuhm | vmsumuhs | vmulesb
  | vmulesh | vmuleub | vmuleuh | vmulfp128 | vmulosb | vmulosh | vmuloub | vmulouh | vnmsubfp
  | vnmsubfp128 | vnor | vnor128 | vor | vor128 | vperm | vperm128 | vpkpx | vpkshss
  | vpkshss128 | vpkshus | vpkshus128 | vpkswss | vpkswss128 | vpkswus | vpkswus128 | vpkuhum
  | vpkuhum128 | vpkuhus | vpkuhus128 | vpkuwum | vpkuwum128 | vpkuwus | vpkuwus128 | vrefp
  | vrefp128 | vrfim | vrfim128 | vrfin | vrfin128 | vrfip | vrfip128 | vrfiz | vrfiz128 | vrlb
  | vrlh | vrlw | vrlw128 | vrsqrtefp | vrsqrtefp128 | vsel | vsel128 | vsl | vslb | vsldoi
  | vslh | vslo | vslo128 | vslw | vslw128 | vspltb | vsplth | vspltisb | vspltish | vspltisw
  | vspltisw128 | vspltw | vspltw128 | vsr | vsrab | vsrah | vsraw | vsraw128 | vsrb | vsrh
  | vsro | vsro128 | vsrw | vsrw128 | vsubcuw | vsubfp | vsubfp128 | vsubsbs | vsubshs
  | vsubsws | vsububm | vsububs | vsubuhm | vsubuhs | vsubuwm | vsubuws | vsum2sws | vsum4sbs
  | vsum4shs | vsum4ubs | vsumsws | vupkhpx | vupkhsb | vupkhsb128 | vupkhsh | vupklpx
  | vupklsb | vupklsb128 | vupklsh | vxor | vxor128 | xor | xori | xoris
deriving DecidableEq

namespace Mnemonic

def name : Mnemonic → String
  | .illegal => "illegal" | .add => "add" | .addc => "addc" | .addco => "addco"
  | .adde => "adde" | .addeo => "addeo" | .addi => "addi" | .addic => "addic"
  | .addis => "addis" | .addme => "addme" | .addmeo => "addmeo" | .addo => "addo"
  | .addze => "addze" | .addzeo => "addzeo" | .and => "and" | .andc => "andc" | .andi => "andi"
  | .andis => "andis" | .b => "b" | .ba => "ba" | .bc => "bc" | .bca => "bca"
  | .bcctr => "bcctr" | .bcctrl => "bcctrl" | .bcl => "bcl" | .bcla => "bcla" | .bclr => "bclr"
  | .bclrl => "bclrl" | .bl => "bl" | .bla => "bla" | .cmpd => "cmpd" | .cmpdi => "cmpdi"
  | .cmpld => "cmpld" | .cmpldi => "cmpldi" | .cmplw => "cmplw" | .cmplwi => "cmplwi"
  | .cmpw => "cmpw" | .cmpwi => "cmpwi" | .cntlzd => "cntlzd" | .cntlzw => "cntlzw"
  | .crand => "crand" | .crandc => "crandc" | .creqv => "creqv" | .crnand => "crnand"
  | .crnor => "crnor" | .cror => "cror" | .crorc => "crorc" | .crxor => "crxor"
  | .dcbf => "dcbf" | .dcbi => "dcbi" | .dcbst => "dcbst" | .dcbt => "dcbt"
  | .dcbtst => "dcbtst" | .dcbz => "dcbz" | .divd => "divd" | .divdo => "divdo"
  | .divdu => "divdu" | .divduo => "divduo" | .divw => "divw" | .divwo => "divwo"
  | .divwu => "divwu" | .divwuo => "divwuo" | .eieio => "eieio" | .eqv => "eqv"
  | .extsb => "extsb" | .extsh => "extsh" | .extsw => "extsw" | .fabs => "fabs"
  | .fadd => "fadd" | .fadds => "fadds" | .fcfid => "fcfid" | .fcmpo => "fcmpo"
  | .fcmpu => "fcmpu" | .fctid => "fctid" | .fctidz => "fctidz" | .fctiw => "fctiw"
  | .fctiwz => "fctiwz" | .fdiv => "fdiv" | .fdivs => "fdivs" | .fmadd => "fmadd"
  | .fmadds => "fmadds" | .fmr => "fmr" | .fmsub => "fmsub" | .fmsubs => "fmsubs"
  | .fmul => "fmul" | .fmuls => "fmuls" | .fnabs => "fnabs" | .fneg => "fneg"
  | .fnmadd => "fnmadd" | .fnmadds => "fnmadds" | .fnmsub => "fnmsub" | .fnmsubs => "fnmsubs"
  | .fres => "fres" | .frsp => "frsp" | .frsqrte => "frsqrte" | .fsel => "fsel"
  | .fsqrt => "fsqrt" | .fsqrts => "fsqrts" | .fsub => "fsub" | .fsubs => "fsubs"
  | .icbi => "icbi" | .isync => "isync" | .lbz => "lbz" | .lbzu => "lbzu" | .lbzux => "lbzux"
  | .lbzx => "lbzx" | .ld => "ld" | .ldarx => "ldarx" | .ldu => "ldu" | .ldux => "ldux"
  | .ldx => "ldx" | .lfd => "lfd" | .lfdp => "lfdp" | .lfdu => "lfdu" | .lfdux => "lfdux"
  | .lfdx => "lfdx" | .lfs => "lfs" | .lfsu => "lfsu" | .lfsux => "lfsux" | .lfsx => "lfsx"
  | .lha => "lha" | .lhau => "lhau" | .lhaux => "lhaux" | .lhax => "lhax" | .lhbrx => "lhbrx"
  | .lhz => "lhz" | .lhzu => "lhzu" | .lhzux => "lhzux" | .lhzx => "lhzx" | .lmw => "lmw"
  | .lvebx => "lvebx" | .lvehx => "lvehx" | .lvewx => "lvewx" | .lvewx128 => "lvewx128"
  | .lvlx128 => "lvlx128" | .lvlxl128 => "lvlxl128" | .lvrx128 => "lvrx128"
  | .lvrxl128 => "lvrxl128" | .lvsl => "lvsl" | .lvsl128 => "lvsl128" | .lvsr => "lvsr"
  | .lvsr128 => "lvsr128" | .lvx => "lvx" | .lvx128 => "lvx128" | .lvxl => "lvxl"
  | .lvxl128 => "lvxl128" | .lwa => "lwa" | .lwarx => "lwarx" | .lwax => "lwax"
  | .lwbrx => "lwbrx" | .lwz => "lwz" | .lwzu => "lwzu" | .lwzux => "lwzux" | .lwzx => "lwzx"
  | .mcrf => "mcrf" | .mcrfs => "mcrfs" | .mcrxr => "mcrxr" | .mfcr => "mfcr" | .mffs => "mffs"
  | .mfmsr => "mfmsr" | .mfspr => "mfspr" | .mfsr => "mfsr" | .mftb => "mftb"
  | .mfvscr => "mfvscr" | .mtcrf => "mtcrf" | .mtfsb0 => "mtfsb0" | .mtfsb1 => "mtfsb1"
  | .mtfsf => "mtfsf" | .mtfsfi => "mtfsfi" | .mtmsr => "mtmsr" | .mtspr => "mtspr"
  | .mtsr => "mtsr" | .mtvscr => "mtvscr" | .mulhd => "mulhd" | .mulhdu => "mulhdu"
  | .mulhw => "mulhw" | .mulhwu => "mulhwu" | .mulld => "mulld" | .mulldo => "mulldo"
  | .mulli => "mulli" | .mullw => "mullw" | .mullwo => "mullwo" | .nand => "nand"
  | .neg => "neg" | .nego => "nego" | .nor => "nor" | .or => "or" | .orc => "orc"
  | .ori => "ori" | .oris => "oris" | .rfi => "rfi" | .rfid => "rfid" | .rldcl => "rldcl"
  | .rldcr => "rldcr" | .rldic => "rldic" | .rldicl => "rldicl" | .rldicr => "rldicr"
  | .rldimi => "rldimi" | .rlwimi => "rlwimi" | .rlwinm => "rlwinm" | .rlwnm => "rlwnm"
  | .sc => "sc" | .sld => "sld" | .slw => "slw" | .srad => "srad" | .sradi => "sradi"
  | .sraw => "sraw" | .srawi => "srawi" | .srd => "srd" | .srw => "srw" | .stb => "stb"
  | .stbu => "stbu" | .stbux => "stbux" | .stbx => "stbx" | .std => "std" | .stdcx => "stdcx"
  | .stdu => "stdu" | .stdux => "stdux" | .stdx => "stdx" | .stfd => "stfd" | .stfdp => "stfdp"
  | .stfdu => "stfdu" | .stfdux => "stfdux" | .stfdx => "stfdx" | .stfiwx => "stfiwx"
  | .stfs => "stfs" | .stfsu => "stfsu" | .stfsux => "stfsux" | .stfsx => "stfsx"
  | .sth => "sth" | .sthbrx => "sthbrx" | .sthu => "sthu" | .sthux => "sthux" | .sthx => "sthx"
  | .stmw => "stmw" | .stvebx => "stvebx" | .stvehx => "stvehx" | .stvewx => "stvewx"
  | .stvewx128 => "stvewx128" | .stvlx128 => "stvlx128" | .stvlxl128 => "stvlxl128"
  | .stvrx128 => "stvrx128" | .stvrxl128 => "stvrxl128" | .stvx => "stvx"
  | .stvx128 => "stvx128" | .stvxl => "stvxl" | .stvxl128 => "stvxl128" | .stw => "stw"
  | .stwbrx => "stwbrx" | .stwcx => "stwcx" | .stwu => "stwu" | .stwux => "stwux"
  | .stwx => "stwx" | .subf => "subf" | .subfc => "subfc" | .subfco => "subfco"
  | .subfe => "subfe" | .subfeo => "subfeo" | .subfic => "subfic" | .subfme => "subfme"
  | .subfmeo => "subfmeo" | .subfo => "subfo" | .subfze => "subfze" | .subfzeo => "subfzeo"
  | .sync => "sync" | .td => "td" | .tdi => "tdi" | .tlbie => "tlbie" | .tlbsync => "tlbsync"
  | .tw => "tw" | .twi => "twi" | .vaddcuw => "vaddcuw" | .vaddfp => "vaddfp"
  | .vaddfp128 => "vaddfp128" | .vaddsbs => "vaddsbs" | .vaddshs => "vaddshs"
  | .vaddsws => "vaddsws" | .vaddubm => "vaddubm" | .vaddubs => "vaddubs"
  | .vadduhm => "vadduhm" | .vadduhs => "vadduhs" | .vadduwm => "vadduwm"
  | .vadduws => "vadduws" | .vand => "vand" | .vand128 => "vand128" | .vandc => "vandc"
  | .vandc128 => "vandc128" | .vavgsb => "vavgsb" | .vavgsh => "vavgsh" | .vavgsw => "vavgsw"
  | .vavgub => "vavgub" | .vavguh => "vavguh" | .vavguw => "vavguw"
  | .vcfpsxws128 => "vcfpsxws128" | .vcfpuxws128 => "vcfpuxws128" | .vcfsx => "vcfsx"
  | .vcfux => "vcfux" | .vcmpbfp => "vcmpbfp" | .vcmpbfp128 => "vcmpbfp128"
  | .vcmpeqfp => "vcmpeqfp" | .vcmpeqfp128 => "vcmpeqfp128" | .vcmpequb => "vcmpequb"
  | .vcmpequh => "vcmpequh" | .vcmpequw => "vcmpequw" | .vcmpequw128 => "vcmpequw128"
  | .vcmpgefp => "vcmpgefp" | .vcmpgefp128 => "vcmpgefp128" | .vcmpgtfp => "vcmpgtfp"
  | .vcmpgtfp128 => "vcmpgtfp128" | .vcmpgtsb => "vcmpgtsb" | .vcmpgtsh => "vcmpgtsh"
  | .vcmpgtsw => "vcmpgtsw" | .vcmpgtub => "vcmpgtub" | .vcmpgtuh => "vcmpgtuh"
  | .vcmpgtuw => "vcmpgtuw" | .vcsxwfp128 => "vcsxwfp128" | .vctsxs => "vctsxs"
  | .vctuxs => "vctuxs" | .vcuxwfp128 => "vcuxwfp128" | .vexptefp => "vexptefp"
  | .vexptefp128 => "vexptefp128" | .vlogefp => "vlogefp" | .vlogefp128 => "vlogefp128"
  | .vmaddcfp128 => "vmaddcfp128" | .vmaddfp => "vmaddfp" | .vmaddfp128 => "vmaddfp128"
  | .vmaxfp => "vmaxfp" | .vmaxfp128 => "vmaxfp128" | .vmaxsb => "vmaxsb" | .vmaxsh => "vmaxsh"
  | .vmaxsw => "vmaxsw" | .vmaxub => "vmaxub" | .vmaxuh => "vmaxuh" | .vmaxuw => "vmaxuw"
  | .vmhaddshs => "vmhaddshs" | .vmhraddshs => "vmhraddshs" | .vminfp => "vminfp"
  | .vminfp128 => "vminfp128" | .vminsb => "vminsb" | .vminsh => "vminsh" | .vminsw => "vminsw"
  | .vminub => "vminub" | .vminuh => "vminuh" | .vminuw => "vminuw" | .vmladduhm => "vmladduhm"
  | .vmrghb => "vmrghb" | .vmrghh => "vmrghh" | .vmrghw => "vmrghw" | .vmrghw128 => "vmrghw128"
  | .vmrglb => "vmrglb" | .vmrglh => "vmrglh" | .vmrglw => "vmrglw" | .vmrglw128 => "vmrglw128"
  | .vmsum3fp128 => "vmsum3fp128" | .vmsum4fp128 => "vmsum4fp128" | .vmsummbm => "vmsummbm"
  | .vmsumshm => "vmsumshm" | .vmsumshs => "vmsumshs" | .vmsumubm => "vmsumubm"
  | .vmsumuhm => "vmsumuhm" | .vmsumuhs => "vmsumuhs" | .vmulesb => "vmulesb"
  | .vmulesh => "vmulesh" | .vmuleub => "vmuleub" | .vmuleuh => "vmuleuh"
  | .vmulfp128 => "vmulfp128" | .vmulosb => "vmulosb" | .vmulosh => "vmulosh"
  | .vmuloub => "vmuloub" | .vmulouh => "vmulouh" | .vnmsubfp => "vnmsubfp"
  | .vnmsubfp128 => "vnmsubfp128" | .vnor => "vnor" | .vnor128 => "vnor128" | .vor => "vor"
  | .vor128 => "vor128" | .vperm => "vperm" | .vperm128 => "vperm128" | .vpkpx => "vpkpx"
  | .vpkshss => "vpkshss" | .vpkshss128 => "vpkshss128" | .vpkshus => "vpkshus"
  | .vpkshus128 => "vpkshus128" | .vpkswss => "vpkswss" | .vpkswss128 => "vpkswss128"
  | .vpkswus => "vpkswus" | .vpkswus128 => "vpkswus128" | .vpkuhum => "vpkuhum"
  | .vpkuhum128 => "vpkuhum128" | .vpkuhus => "vpkuhus" | .vpkuhus128 => "vpkuhus128"
  | .vpkuwum => "vpkuwum" | .vpkuwum128 => "vpkuwum128" | .vpkuwus => "vpkuwus"
  | .vpkuwus128 => "vpkuwus128" | .vrefp => "vrefp" | .vrefp128 => "vrefp128"
  | .vrfim => "vrfim" | .vrfim128 => "vrfim128" | .vrfin => "vrfin" | .vrfin128 => "vrfin128"
  | .vrfip => "vrfip" | .vrfip128 => "vrfip128" | .vrfiz => "vrfiz" | .vrfiz128 => "vrfiz128"
  | .vrlb => "vrlb" | .vrlh => "vrlh" | .vrlw => "vrlw" | .vrlw128 => "vrlw128"
  | .vrsqrtefp => "vrsqrtefp" | .vrsqrtefp128 => "vrsqrtefp128" | .vsel => "vsel"
  | .vsel128 => "vsel128" | .vsl => "vsl" | .vslb => "vslb" | .vsldoi => "vsldoi"
  | .vslh => "vslh" | .vslo => "vslo" | .vslo128 => "vslo128" | .vslw => "vslw"
  | .vslw128 => "vslw128" | .vspltb => "vspltb" | .vsplth => "vsplth" | .vspltisb => "vspltisb"
  | .vspltish => "vspltish" | .vspltisw => "vspltisw" | .vspltisw128 => "vspltisw128"
  | .vspltw => "vspltw" | .vspltw128 => "vspltw128" | .vsr => "vsr" | .vsrab => "vsrab"
  | .vsrah => "vsrah" | .vsraw => "vsraw" | .vsraw128 => "vsraw128" | .vsrb => "vsrb"
  | .vsrh => "vsrh" | .vsro => "vsro" | .vsro128 => "vsro128" | .vsrw => "vsrw"
  | .vsrw128 => "vsrw128" | .vsubcuw => "vsubcuw" | .vsubfp => "vsubfp"
  | .vsubfp128 => "vsubfp128" | .vsubsbs => "vsubsbs" | .vsubshs => "vsubshs"
  | .vsubsws => "vsubsws" | .vsububm => "vsububm" | .vsububs => "vsububs"
  | .vsubuhm => "vsubuhm" | .vsubuhs => "vsubuhs" | .vsubuwm => "vsubuwm"
  | .vsubuws => "vsubuws" | .vsum2sws => "vsum2sws" | .vsum4sbs => "vsum4sbs"
  | .vsum4shs => "vsum4shs" | .vsum4ubs => "vsum4ubs" | .vsumsws => "vsumsws"
  | .vupkhpx => "vupkhpx" | .vupkhsb => "vupkhsb" | .vupkhsb128 => "vupkhsb128"
  | .vupkhsh => "vupkhsh" | .vupklpx => "vupklpx" | .vupklsb => "vupklsb"
  | .vupklsb128 => "vupklsb128" | .vupklsh => "vupklsh" | .vxor => "vxor"
  | .vxor128 => "vxor128" | .xor => "xor" | .xori => "xori" | .xoris => "xoris"

def all : List Mnemonic :=
  (List.range (xoris.ctorIdx + 1)).map ofNat

def ofName? (name : String) : Option Mnemonic :=
  all.find? fun mnemonic => mnemonic.name = name

example : all.length = 470 := by decide +kernel

end Mnemonic

end PowerDisasm
