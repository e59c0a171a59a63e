import CaptureConfig.Schema.Check
import CaptureConfig.Schema.Relational
import CaptureConfig.Table.Filter
import CaptureConfig.Table.Override

/-!
# A connector and its configuration

Every question is answered from the options that the connector holds at that time; only the table filters
are made once, when the connector is.
-/

namespace CaptureConfig

/-- What a connector is made from, besides its options. -/
structure ConnectorSetup where
  /-- The name under which the connector reports. -/
  name : String
  /-- The tables of the database system, if the connector can tell them. -/
  isBuiltin : Option (TableId → Bool) := none
  /-- The name under which patterns see a table, if the connector has one. -/
  nameOf : Option (TableId → String) := none
  /-- The number of records fetched at once when no option says so. -/
  fetchSize : Int := 2000
  /-- The fields of the connector, if it has its own. -/
  schema : Option Schema := none

/-- A connector with its options. -/
structure Connector where
  name : String
  options : Options
  fetchSize : Int
  schema : Schema
  filters : Option TableFilters

namespace Connector

/-- The schema of a connector: its own unless that has no fields, otherwise the shared one. -/
def schemaOf (setup : ConnectorSetup) : Schema :=
  match setup.schema with
  | some s => if s.fields.isEmpty then .relational else s
  | none => .relational

/-- A connector over the given options. It has filters if it can tell the tables of the database system
and has names for the patterns. -/
def build (setup : ConnectorSetup) (o : Options) : Reported Connector :=
  let make (filters : Option TableFilters) : Connector :=
    ⟨setup.name, o, setup.fetchSize, schemaOf setup, filters⟩
  match setup.isBuiltin, setup.nameOf with
  | some isBuiltin, some nameOf =>
    let filters := TableFilters.build o isBuiltin nameOf
    ⟨filters.notices, filters.outcome.map fun f => make (some f)⟩
  | _, _ => .silent (.ok (make none))

/-- The field of the connector with the given name. -/
def field? (c : Connector) (name : String) : Except Fault Field :=
  (c.schema.field? name).mapError .option

/-- The representation of decimal columns: the mode that the option names, or else the mode that the
default of its field names. -/
def decimalMode? (c : Connector) : Except Fault DecimalMode := do
  let field ← c.field? OptionName.decimalMode
  let value := c.options.text? field.key
  match DecimalMode.parse? value field.default with
  | some mode => return mode
  | none => throw (.option (.unknownMode field.name value field.default))

/-- The number of records fetched at once during a snapshot. -/
def fetchSize? (c : Connector) : Except Fault (Option Int) := do
  let field ← c.field? OptionName.fetchSize
  (c.options.integer? field.key (some c.fetchSize)).mapError .option

/-- The snapshot statements of single tables. -/
def overrides (c : Connector) : Reported Override.Statements :=
  match c.field? OptionName.snapshotOverrides with
  | .error fault => .silent (.error fault)
  | .ok field => Override.resolve c.options field.name (some c.name)

/-- The problems of the options, each of which is also reported. -/
def validate (c : Connector) : Reported (List Problem) :=
  match c.schema.validate c.options with
  | .error fault => .silent (.error fault)
  | .ok problems => ⟨problems.map (.invalidValue (.text c.name)), .ok problems⟩

end Connector

/-- The resolved settings of a connector. -/
structure Resolved where
  connector : String
  decimalMode : DecimalMode
  fetchSize : Option Int
  overrides : List (String × Option String)
  filters : Option TableFilters

namespace Connector

/-- The resolved settings. The snapshot statements come first, so their faults take precedence. -/
def resolve (c : Connector) : Reported Resolved :=
  let statements := c.overrides
  let outcome : Except Fault Resolved := do
    let found ← statements.outcome
    let decimalMode ← c.decimalMode?
    let fetchSize ← c.fetchSize?
    let overrides := Assoc.ofPairs (found.map fun (t, s) => (t.identifier, s))
    return { connector := c.name, decimalMode, fetchSize, overrides, filters := c.filters }
  ⟨statements.notices, outcome⟩

end Connector

end CaptureConfig
