import CaptureConfig.Log.Notice
import CaptureConfig.Option.Store
import CaptureConfig.Pattern.List
import CaptureConfig.Table.Id

/-!
# Which tables, schemas and columns are captured

A list of inclusions takes precedence over the list of exclusions of the same kind: when it has an entry,
the exclusions are not looked at.
-/

namespace CaptureConfig

/-- The filters of a connector. -/
structure TableFilters where
  /-- Whether tables of the database system are left out. -/
  ignoreBuiltin : Bool
  /-- The tables of the database system. -/
  isBuiltin : TableId → Bool
  /-- The name under which the patterns see a table. -/
  nameOf : TableId → String
  includedTables : List Pattern
  excludedTables : List Pattern
  includedSchemas : List Pattern
  excludedSchemas : List Pattern
  excludedColumns : List Pattern

namespace TableFilters

/-- Whether inclusions and exclusions admit a name. -/
def admits (included excluded : List Pattern) (name : String) : Bool :=
  if included.isEmpty then !PatternList.matchesAny excluded name
  else PatternList.matchesAny included name

/-- Tables of the database system are not eligible while they are left out. -/
def eligible (f : TableFilters) (t : TableId) : Bool :=
  !(f.ignoreBuiltin && f.isBuiltin t)

/-- Whether a schema is captured; a table without a schema is not held back by it. -/
def capturesSchema (f : TableFilters) : Option String → Bool
  | none => true
  | some schema => admits f.includedSchemas f.excludedSchemas schema

/-- Whether the changes of a table are captured. -/
def captures (f : TableFilters) (t : TableId) : Bool :=
  f.eligible t && f.capturesSchema t.schema && admits f.includedTables f.excludedTables (f.nameOf t)

/-- Whether a column is part of change messages. -/
def capturesColumn (f : TableFilters) (t : TableId) (column : String) : Bool :=
  !PatternList.matchesAny f.excludedColumns (f.nameOf t ++ "." ++ column)

/-- The patterns of an option. -/
def patternsOf (o : Options) (name : String) : Except Fault (List Pattern) :=
  (PatternList.compile? ((o.get? name).getD "")).mapError fun (entry, refusal) =>
    .pattern entry refusal

/-- Whether tables of the database system are left out. When the option cannot be read they are, and a
warning says so. -/
def readIgnoreBuiltin (o : Options) : Bool × List Notice :=
  match o.flag? ⟨OptionName.ignoreBuiltin, none⟩ (some true) with
  | .ok b => (b.getD true, [])
  | .error fault =>
    (true, [.plain .warning (fault.message ++ "; built-in tables are ignored")])

/-- The filters that the options describe. -/
def build (o : Options) (isBuiltin : TableId → Bool) (nameOf : TableId → String) :
    Reported TableFilters :=
  let (ignoreBuiltin, warnings) := readIgnoreBuiltin o
  let outcome : Except Fault TableFilters := do
    let includedTables ← patternsOf o OptionName.includedTables
    let excludedTables ← patternsOf o OptionName.excludedTables
    let includedSchemas ← patternsOf o OptionName.includedSchemas
    let excludedSchemas ← patternsOf o OptionName.excludedSchemas
    let excludedColumns ← patternsOf o OptionName.excludedColumns
    return { ignoreBuiltin, isBuiltin, nameOf, includedTables, excludedTables, includedSchemas,
             excludedSchemas, excludedColumns }
  match outcome with
  | .ok f =>
    let summary := Notice.plain .debug
      ("Built table filters with " ++ Text.showNat f.includedTables.length ++ " included and " ++
        Text.showNat f.excludedTables.length ++ " excluded table pattern(s)")
    ⟨warnings ++ [summary], .ok f⟩
  | .error fault => ⟨warnings, .error fault⟩

end TableFilters

end CaptureConfig
