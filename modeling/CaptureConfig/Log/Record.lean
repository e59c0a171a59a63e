import CaptureConfig.Calendar
import CaptureConfig.Disk.Path
import CaptureConfig.Json.Basic
import CaptureConfig.Log.Level
import CaptureConfig.Log.Template
import CaptureConfig.Settings.Logging

/-!
# Log records and their lines

A record becomes one line of text or one JSON object. The object has the further details that a record
carries only if it carries them; a line of text has none of them. Both give the time as universal time.
-/

namespace CaptureConfig

/-- A point of time: seconds from the start of 1970 in universal time, and thousandths. -/
structure Instant where
  seconds : Int
  millis : Int := 0
deriving Repr, DecidableEq, Inhabited

/-- A record to be logged. -/
structure LogRecord where
  /-- The name of the log. -/
  log : String
  severity : Int
  message : String
  time : Instant
  /-- The module, the function and the line that the record comes from. -/
  origin : String
  function : String
  line : Int := 0
  details : List (String × Datum) := []

namespace LogRecord

/-- The message that a text and its arguments make: without arguments the text stands for itself, and
a mapping that is the only argument is used by name. -/
def messageOf (text : String) : List Datum → Except Template.Fault String
  | [] => .ok text
  | [.map (e :: es)] => Template.format text (.byName (e :: es))
  | arguments => Template.format text (.inOrder arguments)

/-- The date and time of a record in universal time, which the local time is taken to be. -/
def stamp (r : LogRecord) : String :=
  let m := Moment.ofSeconds r.time.seconds
  Text.showNat m.date.year ++ "-" ++ Date.digits 2 m.date.month ++ "-" ++ Date.digits 2 m.date.day ++
    " " ++ m.clock

/-- The thousandths of a second, with three places. -/
def fraction (r : LogRecord) : String :=
  let n := r.time.millis.natAbs
  if r.time.millis < 0 then "-" ++ Date.digits 2 n else Date.digits 3 n

/-- The details that a JSON line shows, in order. -/
def shownDetails : List String := ["connector", "field", "table_name"]

/-- A record as a JSON object. -/
def toJson (r : LogRecord) : Json :=
  .object
    ([("timestamp", .text (r.stamp ++ "," ++ r.fraction)),
      ("level", .text (Level.nameOfNumber r.severity)),
      ("logger", .text r.log),
      ("message", .text r.message),
      ("module", .text r.origin),
      ("function", .text r.function),
      ("line", .int r.line)] ++
      shownDetails.filterMap fun name => (r.details.lookup name).map fun d => (name, d.toJson))

/-- A record as a line of text. -/
def text (r : LogRecord) : String :=
  r.stamp ++ " - " ++ r.log ++ " - " ++ Level.nameOfNumber r.severity ++ " - " ++ r.message

/-- A record in one of the forms of log lines. -/
def lineIn (r : LogRecord) : LogFormat → String
  | .text => r.text
  | .json => r.toJson.compact

end LogRecord

end CaptureConfig
