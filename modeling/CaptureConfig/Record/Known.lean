import CaptureConfig.Record.Basic
import CaptureConfig.Schema.Field
import CaptureConfig.Table.Id

/-!
# Fields, tables and problems as records
-/

namespace CaptureConfig

/-- The names of the kinds of option values. -/
def FieldKind.named : List (String × FieldKind) :=
  [("string", .string), ("list", .list), ("boolean", .boolean), ("int", .int)]

/-- The names of the widths. -/
def FieldWidth.named : List (String × FieldWidth) :=
  [("none", .none), ("short", .short), ("medium", .medium), ("long", .long)]

/-- The names of the degrees of importance. -/
def Importance.named : List (String × Importance) :=
  [("high", .high), ("medium", .medium), ("low", .low)]

/-- The field that entries describe, apart from its checks. -/
def Field.read (checks : List Check) (es : Entries) : Checked Field :=
  (es.required "name" Datum.asText).map (fun name => Field.mk name)
    |> (Checked.ap · (es.required "display_name" Datum.asText))
    |> (Checked.ap · (es.optional "type" .string (Datum.asOneOf FieldKind.named)))
    |> (Checked.ap · (es.optional "width" .none (Datum.asOneOf FieldWidth.named)))
    |> (Checked.ap · (es.optional "importance" .medium (Datum.asOneOf Importance.named)))
    |> (Checked.ap · (es.optional "default_value" none Datum.asOptionalText))
    |> (Checked.ap · (es.optional "description" "" Datum.asText))
    |> (Checked.ap · (es.optional "dependents" [] Datum.asTexts))
    |> (Checked.ap · (.ok checks))

/-- The field that entries describe. -/
def Field.ofEntries (es : Entries) (checks : List Check := []) : Except KeywordFault Field :=
  es.build "ConfigField" (Field.read checks)

/-- The table that entries describe. -/
def TableId.ofEntries (es : Entries) : Except KeywordFault TableId :=
  es.build "TableId" fun es =>
    (es.optional "catalog_name" none Datum.asOptionalText).map TableId.mk
      |> (Checked.ap · (es.optional "schema_name" none Datum.asOptionalText))
      |> (Checked.ap · (es.required "table_name" Datum.asText))

/-- The problem that entries describe. -/
def Problem.ofEntries (es : Entries) : Except KeywordFault Problem :=
  es.build "ValidationProblem" fun es =>
    (es.required "field" Datum.asText).map Problem.mk
      |> (Checked.ap · (es.optional "value" none Datum.asOptionalText))
      |> (Checked.ap · (es.required "message" Datum.asText))

end CaptureConfig
