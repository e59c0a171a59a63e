import CaptureConfig.Datum.Basic
import CaptureConfig.Log.Level
import CaptureConfig.Schema.Problem

/-!
# What is reported while a configuration is resolved

A notice is a record to be logged. Resolving gives its notices back together with its outcome, so that
nothing is written while it runs.
-/

namespace CaptureConfig

/-- A message to be logged, with named details. It has no arguments, so its text is not a template. -/
structure Notice where
  level : Level
  message : String
  details : List (String × Datum) := []
  /-- The name of the operation that reports. -/
  origin : String
  /-- The line from which it reports, nought where that is left open. -/
  line : Int := 0
deriving Repr, Inhabited

/-- A text that may be missing, as a value. -/
def Datum.ofText? : Option String → Datum
  | none => .null
  | some s => .text s

namespace Notice

/-- A notice without further details. -/
def plain (level : Level) (message : String) : Notice :=
  { level, message, origin := Text.lowered level.name }

/-- A problem with an option of a connector. -/
def invalidValue (connector : Datum) (p : Problem) : Notice where
  level := .warning
  message := "Invalid value for " ++ p.field ++ ": " ++ p.message
  details := [("connector", connector), ("field", .text p.field)]
  origin := "log_validation_problems"

/-- A table that is listed for a snapshot statement of its own but has none. -/
def missingOverride (connector : Option String) (table key : String) : Notice where
  level := .warning
  message :=
    "Table " ++ table ++ " is listed for a snapshot select override but '" ++ key ++ "' is not set"
  details := [("connector", .ofText? connector), ("table_name", .text table)]
  origin := "log_missing_override"

end Notice

/-- An outcome with the notices made on the way, in order. -/
structure Reported (α : Type) where
  notices : List Notice
  outcome : Except Fault α

namespace Reported

/-- An outcome that nothing is reported about. -/
def silent {α : Type} (outcome : Except Fault α) : Reported α := ⟨[], outcome⟩

end Reported

end CaptureConfig
