import CaptureConfig.Log.Notice
import CaptureConfig.Option.Store
import CaptureConfig.Table.Id

/-!
# Snapshot statements of single tables

One option lists tables, separated by commas; the statement of a table stands under the name of that
option, a dot and the entry exactly as it is written in the list. A table listed again keeps its place
and takes the statement of its last entry.
-/

namespace CaptureConfig.Override

/-- Tables with their statements, none for a table that has no statement. -/
abbrev Statements := List (TableId × Option String)

/-- The entries of a list, without the empty ones at its end. -/
def tokens (value : String) : List String :=
  ((Text.split ',' value).reverse.dropWhile (· == "")).reverse

/-- The option that holds the statement of an entry. -/
def statementKey (base token : String) : String := base ++ "." ++ token

/-- The warning about an entry whose statement is missing. -/
def warnings (o : Options) (base : String) (connector : Option String) (token : String) :
    List Notice :=
  if o.contains (statementKey base token) then []
  else [.missingOverride connector token (statementKey base token)]

/-- Reads the entries one after another, up to the first that is not a table name. -/
def readTokens (o : Options) (base : String) (connector : Option String) :
    List String → Statements → Reported Statements
  | [], found => .silent (.ok found)
  | token :: rest, found =>
    match TableId.parse? token with
    | .error fault => .silent (.error (.table fault))
    | .ok table =>
      let statement := o.get? (statementKey base token)
      let later := readTokens o base connector rest (Assoc.insert table statement found)
      ⟨warnings o base connector token ++ later.notices, later.outcome⟩

/-- The statements of the tables that an option lists. -/
def resolve (o : Options) (base : String) (connector : Option String) : Reported Statements :=
  match o.get? base with
  | none => .silent (.ok [])
  | some "" => .silent (.ok [])
  | some value =>
    let read := readTokens o base connector (tokens value) []
    match read.outcome with
    | .error fault => ⟨read.notices, .error fault⟩
    | .ok found =>
      let summary : Notice :=
        { Notice.plain .debug ("Resolved snapshot select overrides for " ++
            Text.showNat found.length ++ " table(s)") with
          details := [("connector", .ofText? connector)] }
      ⟨read.notices ++ [summary], .ok found⟩

end CaptureConfig.Override
