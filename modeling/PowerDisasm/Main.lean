import PowerDisasm.Command

/-! # The command line

Reads files, prints what a command answers and leaves with 0, with 1 if the
command failed, or with 2 if the words are no command. -/

namespace PowerDisasm.Main

/-- A reason in the words of the system. Its number may come negated. -/
def refused (code : UInt32) (reason : String) : FileFault :=
  .ofCode code.toInt32.toInt.natAbs reason.capitalize

def refusal : IO.Error → FileFault
  | .alreadyExists _ code reason | .invalidArgument _ code reason
  | .permissionDenied _ code reason | .resourceExhausted _ code reason
  | .inappropriateType _ code reason | .noSuchThing _ code reason => refused code reason
  | .interrupted _ code reason | .noFileOrDirectory _ code reason => refused code reason
  | .otherError code reason | .resourceBusy code reason | .resourceVanished code reason
  | .unsupportedOperation code reason | .hardwareFault code reason
  | .unsatisfiedConstraints code reason | .illegalOperation code reason
  | .protocolError code reason | .timeExpired code reason => refused code reason
  | .unexpectedEof => refused 0 "unexpected end of file"
  | .userError reason => refused 0 reason

def readFile (path : String) : IO (Except FileFault ByteArray) := do
  if path.toList.contains '\x00' then
    return .error .endedName
  try
    return .ok (← IO.FS.readBinFile path)
  catch error =>
    return .error (refusal error)

def usage : String :=
  "Usage: disasm <file> [options], coverage <file> [options] or info [--model <model>]"

end PowerDisasm.Main

def main (words : List String) : IO UInt32 := do
  match ← PowerDisasm.Command.run PowerDisasm.Main.readFile words with
  | .printed lines =>
      for line in lines do
        IO.println line
      return 0
  | .failed message =>
      IO.eprintln message
      return 1
  | .misused =>
      IO.eprintln PowerDisasm.Main.usage
      return 2
