import PowerDisasm.DecodeState
import PowerDisasm.Image

/-! # Log records

What is logged while a processor's tree is set up, an image is opened and words
are decoded. -/

namespace PowerDisasm

inductive LogLevel where
  | debug
  | trace
deriving DecidableEq

def LogLevel.name : LogLevel → String
  | .debug => "DEBUG"
  | .trace => "TRACE"

structure LogRecord where
  level : LogLevel
  text : String
deriving DecidableEq

namespace LogRecord

def ofModel (model : Model) : LogRecord :=
  ⟨.debug, "built " ++ model.name ++ " decoder tables"⟩

def ofImage (path : String) (image : Image) : LogRecord :=
  ⟨.debug, "mapped " ++ Numeral.decimal image.length ++ " bytes of " ++ path ++ " at " ++
    image.base.text⟩

/-- The diagnostic of a word, if it has one, and the word itself before it if no
instruction has its encoding. -/
def ofDecoded (word : Word) (decoded : Decoded) : List LogRecord :=
  match decoded.diagnostic with
  | none => []
  | some diagnostic =>
      let reported := ⟨.debug, diagnostic.text⟩
      if diagnostic.kind = .unmapped then
        [⟨.trace, "no decoder for 0x" ++ Numeral.lowerHex 8 word.toNat⟩, reported]
      else
        [reported]

end LogRecord

end PowerDisasm
