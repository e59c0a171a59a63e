import CaptureConfig.Yaml.Scalar.Shape

/-!
# Tags

A tag says what a node stands for. A plain scalar without a tag gets the one that the shape of its text
tells; a text of no particular shape is a string.
-/

namespace CaptureConfig.Yaml

/-- The tags of nodes. -/
inductive Tag where
  | null
  | bool
  | int
  | float
  | binary
  | timestamp
  | str
  | orderedMap
  | pairs
  | set
  | sequence
  | mapping
  | merge
  | value
  | other (text : String)
deriving Repr, DecidableEq

namespace Tag

/-- The beginning of the texts of common tags. -/
def lead : String := "tag:yaml.org,2002:"

/-- The names of common tags. -/
def named : List (String × Tag) :=
  [("null", .null), ("bool", .bool), ("int", .int), ("float", .float), ("binary", .binary),
   ("timestamp", .timestamp), ("str", .str), ("omap", .orderedMap), ("pairs", .pairs), ("set", .set),
   ("seq", .sequence), ("map", .mapping), ("merge", .merge), ("value", .value)]

/-- The tag with a text. -/
def ofText (text : String) : Tag :=
  match named.find? fun (name, _) => lead ++ name == text with
  | some (_, tag) => tag
  | none => .other text

/-- The text of a tag. -/
def text : Tag → String
  | .other text => text
  | tag =>
    match named.find? fun (_, t) => t == tag with
    | some (name, _) => lead ++ name
    | none => ""

/-- The tag that the shape of a text tells. A line break at the very end does not count. -/
def ofShape (cs : List Char) : Tag :=
  let body := if 1 < cs.length && cs.getLast? == some '\n' then cs.dropLast else cs
  if Shape.isFlag body then .bool
  else if Shape.isFloat body then .float
  else if Shape.isInt body then .int
  else if body == ['<', '<'] then .merge
  else if Shape.isNull body then .null
  else if Shape.isTimestamp body then .timestamp
  else if body == ['='] then .value
  else .str

end Tag

end CaptureConfig.Yaml
