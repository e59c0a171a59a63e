import CaptureConfig.Option.Store
import CaptureConfig.Schema.Field

/-!
# The fields that every relational connector has
-/

namespace CaptureConfig

namespace Relational

/-- The name of the database server, which has to be given. -/
def serverName : Field where
  name := OptionName.serverName
  displayName := "Namespace"
  kind := .string
  width := .medium
  importance := .high
  description :=
    "Unique name that identifies the database server and all recorded offsets, " ++
      "and that is used as a prefix for all schemas and topics. Each distinct " ++
      "installation should have a separate namespace and be monitored by at most " ++
      "one connector."
  checks := [.required]

/-- The number of records fetched at once during a snapshot. -/
def fetchSize : Field where
  name := OptionName.fetchSize
  displayName := "Snapshot fetch size"
  kind := .int
  width := .short
  importance := .medium
  description :=
    "The maximum number of records that should be loaded into memory while " ++
      "performing a snapshot."
  checks := [.positiveInteger]

/-- The tables whose changes are captured. -/
def includedTables : Field where
  name := OptionName.includedTables
  displayName := "Included tables"
  kind := .list
  width := .long
  importance := .high
  description :=
    "The tables for which changes are to be captured. A comma-separated list of" ++
      " regular expressions matching fully-qualified table names of the form " ++
      "<databaseName>.<tableName> or <databaseName>.<schemaName>.<tableName>. May" ++
      " not be used with the table blacklist."
  checks := [.patternList]

/-- The tables whose changes are not captured. -/
def excludedTables : Field where
  name := OptionName.excludedTables
  displayName := "Excluded tables"
  kind := .string
  width := .long
  importance := .medium
  description :=
    "A comma-separated list of regular expressions matching fully-qualified " ++
      "names of tables to be excluded from monitoring. May not be used with the " ++
      "table whitelist."
  checks := [.patternList, .tableLists]

/-- Whether tables of the database system are ignored. -/
def ignoreBuiltin : Field where
  name := OptionName.ignoreBuiltin
  displayName := "Ignore system databases"
  kind := .boolean
  width := .short
  importance := .low
  default := some "true"
  description :=
    "Flag specifying whether built-in tables should be ignored."
  checks := [.boolean]

/-- The columns left out of change messages. -/
def excludedColumns : Field where
  name := OptionName.excludedColumns
  displayName := "Exclude Columns"
  kind := .string
  width := .long
  importance := .medium
  description :=
    "A comma-separated list of regular expressions matching fully-qualified " ++
      "names of columns to be excluded from monitoring and change messages."
  checks := [.patternList]

/-- How decimal columns are represented. -/
def decimalMode : Field where
  name := OptionName.decimalMode
  displayName := "Decimal Handling"
  kind := .string
  width := .short
  importance := .medium
  default := some "precise"
  description :=
    "Specify how DECIMAL and NUMERIC columns should be represented in change " ++
      "events: 'precise' (the default) uses exact decimals encoded in a binary " ++
      "representation; 'string' uses strings; 'double' uses floating point " ++
      "numbers, which may lose precision but are far easier to use in consumers."
  checks := [.decimalMode]

/-- The tables whose snapshot statement is replaced. -/
def snapshotOverrides : Field where
  name := OptionName.snapshotOverrides
  displayName := 
    "List of tables where the default select statement used during snapshotting" ++
      " should be overridden."
  kind := .string
  width := .long
  importance := .medium
  description :=
    "A comma-separated list of fully-qualified tables (DB_NAME.TABLE_NAME or " ++
      "SCHEMA_NAME.TABLE_NAME, depending on the connector). The select statement " ++
      "for each table is given in a further property named " ++
      "'snapshot.select.statement.overrides.<table>'. A possible use case for " ++
      "large append-only tables is setting a point where to resume snapshotting " ++
      "after an interrupted snapshot."

/-- The schemas whose events are captured. -/
def includedSchemas : Field where
  name := OptionName.includedSchemas
  displayName := "Schemas"
  kind := .list
  width := .long
  importance := .high
  description :=
    "The schemas for which events should be captured"
  dependents := [OptionName.includedTables]
  checks := [.patternList]

/-- The schemas whose events are not captured. -/
def excludedSchemas : Field where
  name := OptionName.excludedSchemas
  displayName := "Exclude Schemas"
  kind := .string
  width := .long
  importance := .medium
  description :=
    "The schemas for which events must not be captured"
  checks := [.patternList, .schemaLists]

/-- The fields in declaration order. -/
def fields : List Field :=
  [serverName, fetchSize, includedTables, excludedTables, ignoreBuiltin, excludedColumns, decimalMode,
    snapshotOverrides, includedSchemas, excludedSchemas]

end Relational

/-- The schema that relational connectors share. -/
def Schema.relational : Schema := ⟨Relational.fields, by decide⟩

/-- The shared schema with the fields of one connector. -/
def Schema.relationalWith? (fields : List Field) : Except OptionFault Schema :=
  Schema.relational.extend? fields

end CaptureConfig
