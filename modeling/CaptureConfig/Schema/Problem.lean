import CaptureConfig.Datum.Show
import CaptureConfig.DecimalMode
import CaptureConfig.Option.Store
import CaptureConfig.Pattern.Refusal
import CaptureConfig.Table.Id

/-!
# Problems and faults of a configuration

A problem is what a check finds wrong with the value of an option. A fault leaves a question about the
configuration without an answer.
-/

namespace CaptureConfig

/-- A problem with the value of one option. -/
structure Problem where
  field : String
  value : Option String
  message : String
deriving Repr, DecidableEq

/-- What a check finds wrong. -/
inductive Finding where
  | missing
  | notBoolean
  | notInteger
  | notPositive
  | badPattern (source : String) (refusal : Pattern.Refusal)
  | unknownMode
  | tablesIncludedToo
  | schemasIncludedToo
deriving Repr, DecidableEq

/-- The wording of a finding. -/
def Finding.message : Finding → String
  | .missing => "A value is required"
  | .notBoolean => "Must be either 'true' or 'false'"
  | .notInteger => "An integer value is expected"
  | .notPositive => "A positive integer value is expected"
  | .badPattern source refusal =>
    "A comma-separated list of valid regular expressions is expected, but '" ++ source ++
      "' is invalid: " ++ refusal.message source
  | .unknownMode =>
    "Value must be one of " ++ String.intercalate ", " (DecimalMode.all.map DecimalMode.name)
  | .tablesIncludedToo => "Table whitelist is already specified"
  | .schemasIncludedToo => "Schema whitelist is already specified"

namespace Problem

/-- The problem that a finding makes. -/
def ofFinding (field : String) (value : Option String) (finding : Finding) : Problem :=
  ⟨field, value, finding.message⟩

/-- A problem as one line. -/
def text (p : Problem) : String :=
  p.field ++ "=" ++ (p.value.map Text.quoted).getD "None" ++ ": " ++ p.message

/-- The summary of the problems of a configuration that must not have any. -/
def summary (problems : List Problem) : String :=
  "Configuration has " ++ Text.showNat problems.length ++ " validation problem(s): " ++
    String.intercalate "; " (problems.map fun p => p.field ++ ": " ++ p.message)

end Problem

/-- Why a question about a connector's configuration has no answer. -/
inductive Fault where
  | option (fault : OptionFault)
  | table (fault : TableIdFault)
  | pattern (source : String) (refusal : Pattern.Refusal)
deriving Repr, DecidableEq

/-- The wording of a fault. -/
def Fault.message : Fault → String
  | .option fault => fault.message
  | .table fault => fault.message
  | .pattern source refusal => refusal.message source

end CaptureConfig
