/-! # Names of special-purpose registers

A table from the number of a special-purpose register to its name, in
ascending order of the numbers. A name that is entered for a number replaces
the one the number had. -/

namespace PowerDisasm

structure SpecialNames where
  entries : List (Nat × String)
deriving DecidableEq

namespace SpecialNames

def empty : SpecialNames := ⟨[]⟩

def insertEntry (number : Nat) (name : String) :
    List (Nat × String) → List (Nat × String)
  | [] => [(number, name)]
  | entry :: rest =>
      if number < entry.1 then (number, name) :: entry :: rest
      else if number = entry.1 then (number, name) :: rest
      else entry :: insertEntry number name rest

def insert (specials : SpecialNames) (number : Nat) (name : String) : SpecialNames :=
  ⟨insertEntry number name specials.entries⟩

def insertAll (specials : SpecialNames) (added : List (Nat × String)) : SpecialNames :=
  added.foldl (fun table entry => table.insert entry.1 entry.2) specials

def name? (specials : SpecialNames) (number : Nat) : Option String :=
  specials.entries.lookup number

def size (specials : SpecialNames) : Nat :=
  specials.entries.length

example : ((empty.insertAll [(9, "ctr"), (8, "lr"), (9, "count")]).entries =
    [(8, "lr"), (9, "count")]) := by decide

/-- The registers that every model names. Numbers 268 and 269 are the time base
for reading, 284 and 285 for writing. -/
def shared : SpecialNames where
  entries :=
    [(1, "xer"), (8, "lr"), (9, "ctr"), (18, "dsisr"), (19, "dar"), (22, "dec"),
     (25, "sdr1"), (26, "srr0"), (27, "srr1"), (256, "vrsave"), (268, "tbl"),
     (269, "tbu"), (272, "sprg0"), (273, "sprg1"), (274, "sprg2"), (275, "sprg3"),
     (282, "ear"), (284, "tblw"), (285, "tbuw"), (287, "pvr"), (528, "ibat0u"),
     (529, "ibat0l"), (530, "ibat1u"), (531, "ibat1l"), (532, "ibat2u"),
     (533, "ibat2l"), (534, "ibat3u"), (535, "ibat3l"), (536, "dbat0u"),
     (537, "dbat0l"), (538, "dbat1u"), (539, "dbat1l"), (540, "dbat2u"),
     (541, "dbat2l"), (542, "dbat3u"), (543, "dbat3l"), (1008, "hid0"),
     (1009, "hid1"), (1013, "dabr"), (1023, "pir")]

example : shared.entries.Pairwise (·.1 < ·.1) := by decide

end SpecialNames

end PowerDisasm
