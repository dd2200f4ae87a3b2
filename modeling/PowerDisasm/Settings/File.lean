import PowerDisasm.Image
import PowerDisasm.Settings.Document

/-! # Settings and files

Settings that a file holds, and the part of a file that settings select. -/

namespace PowerDisasm

inductive SettingsFault where
  | file (path : String) (fault : FileFault)
  | invalid (path : String)
deriving DecidableEq

def SettingsFault.message : SettingsFault → String
  | .file path fault => fault.describe path
  | .invalid path => "Invalid config " ++ path

def SettingsLayer.ofFile (path : String) (content : Except FileFault ByteArray) :
    Except SettingsFault SettingsLayer :=
  match content with
  | .error fault => .error (.file path fault)
  | .ok bytes =>
      match String.fromUTF8? bytes with
      | none => .error (.file path .notText)
      | some text =>
          match SettingsDocument.parse? text with
          | none => .error (.invalid path)
          | some layer => .ok layer

namespace Settings

def selectedLength (settings : Settings) (size : Nat) : Nat :=
  settings.length.getD (size - settings.offset)

def select (settings : Settings) (path : String) (content : Except FileFault ByteArray) :
    Except ImageFault Image :=
  match Image.ofFile path content settings.base with
  | .error fault => .error fault
  | .ok whole => whole.slice settings.offset (settings.selectedLength whole.length)

end Settings

end PowerDisasm
