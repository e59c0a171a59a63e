import CaptureConfig.Datum.Show

/-!
# JSON texts

The text of a value is pure ASCII: every other character is escaped, one beyond `U+FFFF` as a pair of
surrogates. `compact` writes one line; `pretty` gives each member a line of its own.
-/

namespace CaptureConfig

/-- A JSON value; the members of an object keep their order. -/
inductive Json where
  | null
  | bool (b : Bool)
  | int (i : Int)
  | float (x : Binary64)
  | text (s : String)
  | array (xs : List Json)
  | object (members : List (String × Json))
deriving Inhabited

namespace Json

/-- The escape of one unit of sixteen bits. -/
def escapeUnit (n : Nat) : List Char := '\\' :: 'u' :: (Text.hex 4 n).toList

/-- One character inside quotes. -/
def escapeChar (c : Char) : List Char :=
  let n := c.toNat
  if c == '"' then ['\\', '"']
  else if c == '\\' then ['\\', '\\']
  else if c == '\n' then ['\\', 'n']
  else if c == '\r' then ['\\', 'r']
  else if c == '\t' then ['\\', 't']
  else if n == 8 then ['\\', 'b']
  else if n == 12 then ['\\', 'f']
  else if 32 ≤ n && n ≤ 126 then [c]
  else if n < 0x10000 then escapeUnit n
  else
    let m := n - 0x10000
    escapeUnit (0xD800 + m / 0x400) ++ escapeUnit (0xDC00 + m % 0x400)

/-- A text between quotes. -/
def quote (s : String) : String :=
  String.ofList ('"' :: (s.toList.flatMap escapeChar ++ ['"']))

/-- A floating-point number; infinities and the undefined number have names. -/
def floatText : Binary64 → String
  | .nan => "NaN"
  | .infinity false => "Infinity"
  | .infinity true => "-Infinity"
  | x => x.text

mutual

/-- A value on one line. -/
def compact : Json → String
  | .null => "null"
  | .bool b => if b then "true" else "false"
  | .int i => Text.showInteger i
  | .float x => floatText x
  | .text s => quote s
  | .array xs => Datum.bracketed "[" "]" (compactAll xs)
  | .object members => Datum.bracketed "\x7b" "\x7d" (compactMembers members)

/-- Values on one line each. -/
def compactAll : List Json → List String
  | [] => []
  | x :: xs => x.compact :: compactAll xs

/-- Members on one line each. -/
def compactMembers : List (String × Json) → List String
  | [] => []
  | (k, v) :: rest => (quote k ++ ": " ++ v.compact) :: compactMembers rest

end

/-- Lines between brackets, indented one step further than the brackets. -/
def block (depth : Nat) (left right : String) (lines : List String) : String :=
  if lines.isEmpty then left ++ right
  else
    let indent (n : Nat) := String.ofList (List.replicate (2 * n) ' ')
    left ++ "\n" ++ String.intercalate ",\n" (lines.map (indent (depth + 1) ++ ·)) ++ "\n" ++
      indent depth ++ right

mutual

/-- A value on several lines, inside the given number of brackets. -/
def prettyAt (depth : Nat) : Json → String
  | .array xs => block depth "[" "]" (prettyAll (depth + 1) xs)
  | .object members => block depth "\x7b" "\x7d" (prettyMembers (depth + 1) members)
  | .null => "null"
  | .bool b => if b then "true" else "false"
  | .int i => Text.showInteger i
  | .float x => floatText x
  | .text s => quote s

/-- Values on several lines. -/
def prettyAll (depth : Nat) : List Json → List String
  | [] => []
  | x :: xs => x.prettyAt depth :: prettyAll depth xs

/-- Members on several lines. -/
def prettyMembers (depth : Nat) : List (String × Json) → List String
  | [] => []
  | (k, v) :: rest => (quote k ++ ": " ++ v.prettyAt depth) :: prettyMembers depth rest

end

/-- A value on several lines. -/
def pretty (x : Json) : String := x.prettyAt 0

/-- A text that may be missing. -/
def ofText? : Option String → Json
  | none => .null
  | some s => .text s

end Json

namespace Datum

/-- The name of a member of an object that a key becomes. -/
def memberName : Datum → String
  | .null => "null"
  | .bool b => if b then "true" else "false"
  | .float x => Json.floatText x
  | x => x.text?.getD ""

mutual

/-- A value as JSON; what JSON does not know is given as its text. -/
def toJson : Datum → Json
  | .null => .null
  | .bool b => .bool b
  | .int i => .int i
  | .float x => .float x
  | .text s => .text s
  | .list xs => .array (toJsonAll xs)
  | .pair x y => .array [x.toJson, y.toJson]
  | .map entries => .object (toJsonEntries entries)
  | .bytes bs => .text (showBytes bs)
  | .date d => .text d.text
  | .moment m => .text m.text
  | .set xs => .text ((inner? (.set xs)).getD "")

/-- Values as JSON. -/
def toJsonAll : List Datum → List Json
  | [] => []
  | x :: xs => x.toJson :: toJsonAll xs

/-- The entries of a mapping as members of an object. -/
def toJsonEntries : List (Datum × Datum) → List (String × Json)
  | [] => []
  | (k, v) :: rest => (k.memberName, v.toJson) :: toJsonEntries rest

end

end Datum

end CaptureConfig
