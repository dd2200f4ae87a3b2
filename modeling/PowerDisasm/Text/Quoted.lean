import PowerDisasm.Text.Numeral
import PowerDisasm.Text.Unprintable

/-! # Quoted text

A text in double quotes. Quotes and backslashes stand behind a backslash, the
usual control characters have a letter of their own, and every other character
without a visible form is written as its hexadecimal number. -/

namespace PowerDisasm.Quoted

def escape (character : Char) : String :=
  match character with
  | '"' => "\\\""
  | '\\' => "\\\\"
  | '\n' => "\\n"
  | '\r' => "\\r"
  | '\t' => "\\t"
  | '\x00' => "\\0"
  | other =>
      if Unprintable.contains other then
        "\\u\x7b" ++ Numeral.hex other.toNat ++ "\x7d"
      else
        other.toString

def quote (text : String) : String :=
  "\"" ++ String.join (text.toList.map escape) ++ "\""

example : quote "a\\b\n" = "\"a\\\\b\\n\"" := by decide
example : quote "\x1b" = "\"\\u\x7b1b\x7d\"" := by decide

end PowerDisasm.Quoted
