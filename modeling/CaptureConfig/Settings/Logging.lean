import CaptureConfig.Log.Level
import CaptureConfig.Record.Basic

/-!
# Logging settings
-/

namespace CaptureConfig

/-- The forms of log lines. -/
inductive LogFormat where
  | text
  | json
deriving Repr, DecidableEq, Inhabited

namespace LogFormat

/-- The name of a form. -/
def name : LogFormat → String
  | .text => "text"
  | .json => "json"

end LogFormat

/-- How records are logged. The level and the form are kept as they are spelled, in small letters. -/
structure LoggingSettings where
  level : String := "info"
  format : String := "text"
  toFile : Bool := false
  filePath : Option String := none
deriving Repr, DecidableEq, Inhabited

namespace LoggingSettings

/-- The names of the levels, as a list in a message. -/
def levelNames : String :=
  Datum.bracketed "[" "]" (Level.all.map fun level => Text.quoted level.name)

/-- The names of the forms, as a list in a message. -/
def formatNames : String :=
  Datum.bracketed "[" "]" ([LogFormat.text, .json].map fun format => Text.quoted format.name)

/-- A level: its letters written as capitals have to name one. -/
def readLevel (d : Datum) : Checked String := do
  let s ← d.asText
  if (Level.named? s).isSome then return Text.lowered s
  else Checked.mismatch (.refused ("Invalid logging level: " ++ s ++ ". Must be one of " ++ levelNames))

/-- A form of log lines: its small letters have to name one. -/
def readFormat (d : Datum) : Checked String := do
  let s ← d.asText
  let word := Text.lowered s
  if word = LogFormat.text.name || word = LogFormat.json.name then return word
  else
    Checked.mismatch
      (.refused ("Invalid logging format: " ++ s ++ ". Must be one of " ++ formatNames))

/-- The settings that the entries of a record describe, field by field. -/
def read (es : Entries) : Checked LoggingSettings :=
  Checked.ap
    (Checked.ap
      (Checked.ap
        ((es.optional "level" "info" readLevel).map LoggingSettings.mk)
        (es.optional "format" "text" readFormat))
      (es.optional "log_to_file" false Datum.asFlag))
    (es.optional "log_file_path" none Datum.asOptionalText)

/-- The settings that entries describe. -/
def ofEntries (es : Entries) : Except KeywordFault LoggingSettings := es.build "LoggingConfig" read

/-- The settings that a value describes. -/
def ofDatum : Datum → Checked LoggingSettings
  | .map es => read es
  | _ => .mismatch (.notRecord "LoggingConfig")

end LoggingSettings

end CaptureConfig
