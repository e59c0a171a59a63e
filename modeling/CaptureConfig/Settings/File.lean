import CaptureConfig.Disk.Basic
import CaptureConfig.Settings.Basic
import CaptureConfig.Yaml.Value

/-!
# Settings from a file

A configuration file is a YAML document in UTF-8. Its faults are those of the disk, of the encoding, of
the document and of the settings.
-/

namespace CaptureConfig

/-- Why a file has no settings. -/
inductive FileFault where
  | missing (path : String)
  | unreadable (fault : DiskFault)
  /-- The disk does not tell whether there is a file. -/
  | unreachable (fault : DiskFault)
  | encoding (fault : Text.Utf8Fault)
  | document (file : String) (fault : Yaml.Fault)
  | empty (path : String)
  | settings (fault : SettingsFault)
deriving Repr, DecidableEq

namespace Yaml.Fault

/-- Whether a fault is one of the document's form. -/
def isFormal : Fault → Bool
  | .marked _ _ _ => true
  | .unacceptable _ _ => true
  | .codePoint _ => false
  | .scalar _ => false

end Yaml.Fault

/-- The wording of a fault. -/
def FileFault.message : FileFault → String
  | .missing path => "Configuration file not found: " ++ path
  | .unreadable fault => "Error reading configuration file: " ++ fault.message
  | .unreachable fault => fault.message
  | .encoding fault => fault.message
  | .document file fault =>
    (if fault.isFormal then "Error parsing YAML configuration: " else "") ++ fault.message file
  | .empty path => "Configuration file is empty: " ++ path
  | .settings fault => fault.message

namespace Settings

/-- The value of the document in a file. -/
def readDocument (d : Disk) (path : Path) : Except FileFault Datum := do
  if !(← (d.contains path).mapError .unreachable) then throw (.missing path.text)
  let bytes ← (d.read path).mapError .unreadable
  let cs ← (Text.decodeFile bytes).mapError .encoding
  (Yaml.load (Text.unixLines cs)).mapError (.document path.text)

/-- The settings in a file, with overrides. -/
def ofFile (d : Disk) (path : Path) (overrides : List (String × String) := [])
    (level : Option String := none) : Except FileFault Settings := do
  match ← readDocument d path with
  | .null => throw (.empty path.text)
  | document => (ofDocument document overrides level).mapError .settings

end Settings

end CaptureConfig
