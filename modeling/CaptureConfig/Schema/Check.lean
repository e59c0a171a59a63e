import CaptureConfig.Option.Store
import CaptureConfig.Pattern.List
import CaptureConfig.Schema.Field
import CaptureConfig.Schema.Problem

/-!
# Checking option values

A check reads the option of its field, with the field's default in the absence of a value, and reports
the problems it finds. The checks of two lists at once look their fields up in the schema, and fail when
the schema lacks them.
-/

namespace CaptureConfig

namespace Check

/-- The problems with each entry of a list of regular expressions that is refused. A refusal that is not
about syntax ends the check. -/
def patternProblems (field : Field) (value : String) : List String → Except Fault (List Problem)
  | [] => .ok []
  | entry :: rest => do
    match Pattern.compile? entry with
    | .ok _ => patternProblems field value rest
    | .error (.syntactic complaint place) =>
      let problem := Problem.ofFinding field.name (some value)
        (.badPattern entry (.syntactic complaint place))
      return problem :: (← patternProblems field value rest)
    | .error refusal => throw (.pattern entry refusal)

/-- The problem of having both of two lists, which is reported on the second. -/
def bothLists (o : Options) (s : Schema) (included excluded : String) (finding : Finding) :
    Except Fault (List Problem) := do
  let white ← (s.field? included).mapError .option
  let black ← (s.field? excluded).mapError .option
  match o.text? white.key, o.text? black.key with
  | some _, some value => return [.ofFinding excluded (some value) finding]
  | _, _ => return []

/-- The problems that a check finds with the option of a field. -/
def run (o : Options) (field : Field) (s : Schema) (check : Check) : Except Fault (List Problem) :=
  let value := o.text? field.key
  let report (finding : Finding) : List Problem := [.ofFinding field.name value finding]
  match check with
  | .required => .ok (if value.all Text.blank then report .missing else [])
  | .boolean => .ok (if value.all fun v => (Options.readFlag? v).isSome then [] else report .notBoolean)
  | .integer =>
    .ok (if value.all fun v => (Text.readInteger v).isOk then [] else report .notInteger)
  | .positiveInteger =>
    match value.map Text.readInteger with
    | none => .ok []
    | some (.error _) => .ok (report .notInteger)
    | some (.ok i) => .ok (if i ≤ 0 then report .notPositive else [])
  | .patternList =>
    match value with
    | none => .ok []
    | some v => patternProblems field v (PatternList.entries v)
  | .decimalMode =>
    .ok (if value.all fun v => (DecimalMode.named? v).isSome then [] else report .unknownMode)
  | .tableLists =>
    bothLists o s OptionName.includedTables OptionName.excludedTables .tablesIncludedToo
  | .schemaLists =>
    bothLists o s OptionName.includedSchemas OptionName.excludedSchemas .schemasIncludedToo

end Check

/-- The results of fallible steps one after another, up to the first fault. -/
def collect {α β ε : Type} (f : α → Except ε (List β)) (xs : List α) : Except ε (List β) :=
  (xs.mapM f).map List.flatten

/-- The problems that the checks of a field find, in order. -/
def Field.problems (f : Field) (o : Options) (s : Schema) : Except Fault (List Problem) :=
  collect (Check.run o f s) f.checks

/-- The problems of a configuration, field by field. -/
def Schema.validate (s : Schema) (o : Options) : Except Fault (List Problem) :=
  collect (fun f => f.problems o s) s.fields

end CaptureConfig
