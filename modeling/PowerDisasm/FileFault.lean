import PowerDisasm.Text.Numeral

/-! # Faults of files

Why the content of a file could not be had. -/

namespace PowerDisasm

inductive FileFault where
  | refused (reason : String) (code : Nat)
  | endedName
  | notText
deriving DecidableEq

namespace FileFault

def missing : FileFault := .refused "No such file or directory" 2

/-- A directory has no device whose content could lie in memory. -/
def noDevice : FileFault := .refused "No such device" 19

def notDirectory : FileFault := .refused "Not a directory" 20

def directory : FileFault := .refused "Is a directory" 21

def nameTooLong : FileFault := .refused "File name too long" 36

def worded : List FileFault :=
  [missing, noDevice, notDirectory, directory, nameTooLong]

def code? : FileFault → Option Nat
  | .refused _ code => some code
  | _ => none

/-- The refusal with a number. The reason counts only if no wording is fixed. -/
def ofCode (code : Nat) (reason : String) : FileFault :=
  (worded.find? fun fault => fault.code? = some code).getD (.refused reason code)

example : ofCode 36 "name too long" = nameTooLong := by decide

/-- The fault if the content is to lie in memory instead of being read. -/
def ofMapping (fault : FileFault) : FileFault :=
  if fault = directory then noDevice else fault

def message : FileFault → String
  | .refused reason code => reason ++ " (os error " ++ Numeral.decimal code ++ ")"
  | .endedName => "file name contained an unexpected NUL byte"
  | .notText => "stream did not contain valid UTF-8"

def describe (fault : FileFault) (path : String) : String :=
  "I/O error: " ++ path ++ ": " ++ fault.message

example : missing.describe "a.bin" =
    "I/O error: a.bin: No such file or directory (os error 2)" := by decide

end FileFault

end PowerDisasm
