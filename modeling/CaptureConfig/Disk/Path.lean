import CaptureConfig.Text.Split

/-!
# Paths

A path is a root, which may be empty, and the names that lead on from there. Empty names and single dots
are left out; two dots stay, because what they mean depends on what the disk holds.
-/

namespace CaptureConfig

/-- A path on a disk. -/
structure Path where
  root : String := ""
  parts : List String
deriving Repr, DecidableEq, Inhabited

namespace Path

/-- The root that a path begins with: one slash, or exactly two. -/
def rootOf (s : String) : String :=
  match s.toList with
  | ['/', '/'] => "//"
  | '/' :: '/' :: c :: _ => if c = '/' then "/" else "//"
  | '/' :: _ => "/"
  | _ => ""

/-- The path that a text denotes. -/
def ofText (s : String) : Path :=
  ⟨rootOf s, (Text.split '/' s).filter fun part => part != "" && part != "."⟩

/-- A path as text; the path without names is a dot. -/
def text (p : Path) : String :=
  let s := p.root ++ String.intercalate "/" p.parts
  if s = "" then "." else s

/-- Whether a path has a null character, with which it leads nowhere. -/
def hasNull (p : Path) : Bool := p.parts.any fun part => part.toList.contains '\x00'

/-- The names that lead to a path: those of a path with a root begin with a slash. -/
def names (p : Path) : List String := if p.root = "" then p.parts else "/" :: p.parts

/-- The path to which names lead. -/
def ofNames : List String → Path
  | "/" :: parts => ⟨"/", parts⟩
  | parts => ⟨"", parts⟩

/-- The path without its last name. -/
def parent (p : Path) : Path := { p with parts := p.parts.dropLast }

/-- The last name of a path. -/
def name (p : Path) : String := p.parts.getLast?.getD ""

/-- The characters before the last dot and those after it. -/
def cutAtLastDot? (s : String) : Option (List Char × List Char) :=
  let (after, rest) := s.toList.reverse.span (· != '.')
  match rest with
  | [] => none
  | _ :: before => some (before.reverse, after.reverse)

/-- The last name without its extension; a dot at either end does not begin one. -/
def stem (p : Path) : String :=
  match cutAtLastDot? p.name with
  | some (before, after) =>
    if before.isEmpty || after.isEmpty then p.name else String.ofList before
  | none => p.name

/-- The text after the last slash without what follows its last dot; dots at its start do not count. -/
def moduleName (s : String) : String :=
  let file := (Text.split '/' s).getLast?.getD ""
  match cutAtLastDot? file with
  | some (before, _) => if before.all (· == '.') then file else String.ofList before
  | none => file

/-- The names without two dots, each of which takes back the name before it. -/
def plainParts : List String → List String → List String
  | found, [] => found.reverse
  | found, part :: rest =>
    if part = ".." then
      match found with
      | [] => plainParts [part] rest
      | name :: before => if name = ".." then plainParts (part :: found) rest else plainParts before rest
    else plainParts (part :: found) rest

/-- The path without two dots. -/
def plain (p : Path) : Path := { p with parts := plainParts [] p.parts }

end Path

end CaptureConfig
