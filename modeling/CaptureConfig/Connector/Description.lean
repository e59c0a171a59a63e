import CaptureConfig.Connector.Basic
import CaptureConfig.Json.Basic

/-!
# The resolved settings as JSON
-/

namespace CaptureConfig

/-- The patterns of the filters, as they are written. -/
def TableFilters.toJson (f : TableFilters) : Json :=
  let sources (ps : List Pattern) : Json := .array (ps.map fun p => .text p.source)
  .object
    [("ignore_builtin", .bool f.ignoreBuiltin),
     ("table_whitelist", sources f.includedTables),
     ("table_blacklist", sources f.excludedTables),
     ("schema_whitelist", sources f.includedSchemas),
     ("schema_blacklist", sources f.excludedSchemas),
     ("column_blacklist", sources f.excludedColumns)]

/-- The resolved settings of a connector. -/
def Resolved.toJson (r : Resolved) : Json :=
  .object
    [("connector", .text r.connector),
     ("decimal_mode", .text r.decimalMode.name),
     ("snapshot_fetch_size", (r.fetchSize.map Json.int).getD .null),
     ("snapshot_select_overrides", .object (r.overrides.map fun (k, s) => (k, .ofText? s))),
     ("table_filters", (r.filters.map TableFilters.toJson).getD .null)]

end CaptureConfig
