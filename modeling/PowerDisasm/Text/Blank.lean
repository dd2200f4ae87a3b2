/-! # Blank characters

The white space of the Unicode standard, and text without it at both ends. -/

namespace PowerDisasm.Blank

def contains (character : Char) : Bool :=
  let code := character.toNat
  (0x09 ≤ code && code ≤ 0x0D) || code = 0x20 || code = 0x85 || code = 0xA0 ||
    code = 0x1680 || (0x2000 ≤ code && code ≤ 0x200A) || code = 0x2028 ||
    code = 0x2029 || code = 0x202F || code = 0x205F || code = 0x3000

def trimLeft (text : List Char) : List Char :=
  text.dropWhile contains

def trim (text : List Char) : List Char :=
  (trimLeft (trimLeft text).reverse).reverse

example : trim "\u00a0 1 2\t".toList = "1 2".toList := by decide

end PowerDisasm.Blank
