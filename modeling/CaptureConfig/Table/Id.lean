import CaptureConfig.Text.Character
import CaptureConfig.Text.Integer
import CaptureConfig.Text.Split

/-!
# Qualified table names

A qualified name is a table, a catalog and a table, or a catalog, a schema and a table, written with dots
between the parts. White space around a part does not count.
-/

namespace CaptureConfig

/-- The identity of a table. -/
structure TableId where
  catalog : Option String := none
  schema : Option String := none
  table : String
deriving Repr, DecidableEq, Inhabited

/-- Why a text is not a qualified table name. -/
inductive TableIdFault where
  | blank
  | blankPart (text : String)
  | tooManyParts (count : Nat) (text : String)
deriving Repr, DecidableEq

/-- The wording of a fault. -/
def TableIdFault.message : TableIdFault → String
  | .blank => "Table name must not be empty"
  | .blankPart text => "Invalid qualified table name: '" ++ text ++ "'"
  | .tooManyParts count text =>
    "Qualified table name must have at most 3 parts, got " ++ Text.showNat count ++ ": '" ++ text ++
      "'"

namespace TableId

/-- The table that a qualified name denotes. -/
def parse? (text : String) : Except TableIdFault TableId :=
  if Text.blank text then .error .blank
  else
    let parts := (Text.split '.' text).map Text.trim
    if parts.any (· == "") then .error (.blankPart text)
    else match parts with
      | [table] => .ok { table }
      | [catalog, table] => .ok { catalog := some catalog, table }
      | [catalog, schema, table] => .ok { catalog := some catalog, schema := some schema, table }
      | _ => .error (.tooManyParts parts.length text)

/-- The qualified name of a table: the parts that it has, with dots between them. -/
def identifier (t : TableId) : String :=
  String.intercalate "." ((t.catalog.toList ++ t.schema.toList) ++ [t.table])

/-- The name of a table within its catalog. -/
def schemaQualified (t : TableId) : String :=
  match t.schema with
  | none => t.table
  | some schema => schema ++ "." ++ t.table

end TableId

end CaptureConfig
