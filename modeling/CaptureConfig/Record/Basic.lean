import CaptureConfig.Datum.Show
import CaptureConfig.Text.Spelling
import CaptureConfig.Text.Utf8

/-!
# Records read from values of unknown shape

A record is read field by field; all fields that do not fit are reported together, in the order in which
the record declares them. Entries that the record does not know are ignored.
-/

namespace CaptureConfig

/-- Why a value does not fit a field. -/
inductive Mismatch where
  | missing
  | notText
  | notUnicode
  | notFlag
  | unreadableFlag
  | notTuple
  | notOneOf (options : List String)
  | notRecord (name : String)
  | refused (reason : String)
deriving Repr, DecidableEq

/-- Words in quotes, the last one after `or`. -/
def alternatives : List String → String
  | [] => ""
  | [w] => "'" ++ w ++ "'"
  | [v, w] => "'" ++ v ++ "' or '" ++ w ++ "'"
  | w :: ws => "'" ++ w ++ "', " ++ alternatives ws

/-- The wording of a mismatch. -/
def Mismatch.message : Mismatch → String
  | .missing => "Field required"
  | .notText => "Input should be a valid string"
  | .notUnicode =>
    "Input should be a valid string, unable to parse raw data as a unicode string"
  | .notFlag => "Input should be a valid boolean"
  | .unreadableFlag => "Input should be a valid boolean, unable to interpret input"
  | .notTuple => "Input should be a valid tuple"
  | .notOneOf options => "Input should be " ++ alternatives options
  | .notRecord name => "Input should be a valid dictionary or instance of " ++ name
  | .refused reason => "Value error, " ++ reason

/-- A mismatch at a place of a record. -/
structure Violation where
  place : List String
  cause : Mismatch
deriving Repr, DecidableEq

/-- Why a value is not a record. -/
structure RecordFault where
  /-- The name of the record. -/
  title : String
  violations : List Violation
deriving Repr, DecidableEq

/-- The wording of a fault: a headline and two lines for each violation, which end where the reason ends. The kind
of the violation and the value that does not fit are left out. -/
def RecordFault.message (f : RecordFault) : String :=
  let n := f.violations.length
  let headline := Text.showNat n ++ (if n = 1 then " validation error" else " validation errors") ++
    " for " ++ f.title
  headline ++ String.join (f.violations.map fun v =>
    "\n" ++ String.intercalate "." v.place ++ "\n  " ++ v.cause.message)

/-- Why entries do not describe a record. -/
inductive KeywordFault where
  | keyNotText
  | invalid (fault : RecordFault)
deriving Repr, DecidableEq

/-- The wording of a fault. -/
def KeywordFault.message : KeywordFault → String
  | .keyNotText => "keywords must be strings"
  | .invalid fault => fault.message

/-- A value read, or everything that does not fit. -/
abbrev Checked (α : Type) := Except (List Violation) α

namespace Checked

/-- Joins two readings and all that does not fit in either. -/
def ap {α β : Type} (f : Checked (α → β)) (x : Checked α) : Checked β :=
  match f, x with
  | .ok g, .ok a => .ok (g a)
  | .ok _, .error e => .error e
  | .error e, .ok _ => .error e
  | .error e, .error e' => .error (e ++ e')

/-- A reading at a place of a larger record. -/
def within {α : Type} (place : String) (x : Checked α) : Checked α :=
  x.mapError (·.map fun v => { v with place := place :: v.place })

/-- The mismatch at a place. -/
def mismatch {α : Type} (cause : Mismatch) : Checked α := .error [⟨[], cause⟩]

/-- The record with a title, or its fault. -/
def titled {α : Type} (title : String) (x : Checked α) : Except RecordFault α :=
  x.mapError fun violations => ⟨title, violations⟩

/-- All readings of a list, or everything that does not fit in any. -/
def all {α : Type} : List (Checked α) → Checked (List α)
  | [] => .ok []
  | x :: xs => ap (x.map (· :: ·)) (all xs)

end Checked

namespace Datum

/-- A value as a text. -/
def asText : Datum → Checked String
  | .text s => .ok s
  | .bytes bs =>
    match Text.ofUtf8? bs with
    | some s => .ok s
    | none => .mismatch .notUnicode
  | _ => .mismatch .notText

/-- A value as a text that may be null. -/
def asOptionalText : Datum → Checked (Option String)
  | .null => .ok none
  | x => x.asText.map some

/-- The words for truth values. -/
def flagWord? (s : String) : Option Bool :=
  let word := Text.lowered s
  if ["0", "off", "f", "false", "n", "no"].contains word then some false
  else if ["1", "on", "t", "true", "y", "yes"].contains word then some true
  else none

/-- A truth value given by a word or a number. -/
def flagOf (b : Option Bool) : Checked Bool :=
  match b with
  | some b => .ok b
  | none => .mismatch .unreadableFlag

/-- The truth value of the numbers nought and one. -/
def flagNumber? (i : Int) : Option Bool :=
  if i = 0 then some false else if i = 1 then some true else none

/-- Whether an integer fits into 64 bits with a sign. -/
def fits64 (i : Int) : Bool := -(Int.pow 2 63) ≤ i && i < Int.pow 2 63

/-- A value as a truth value. -/
def asFlag : Datum → Checked Bool
  | .bool b => .ok b
  | .text s => flagOf (flagWord? s)
  | .bytes bs => flagOf ((Text.ofUtf8? bs).bind flagWord?)
  | .int i => if fits64 i then flagOf (flagNumber? i) else .mismatch .notFlag
  | .float x =>
    match x.toInt? with
    | some i => if fits64 i then flagOf (flagNumber? i) else .mismatch .notFlag
    | none => .mismatch .notFlag
  | _ => .mismatch .notFlag

/-- A value as one of several named options. -/
def asOneOf {α : Type} (options : List (String × α)) : Datum → Checked α
  | .text s =>
    match options.lookup s with
    | some a => .ok a
    | none => .mismatch (.notOneOf (options.map Prod.fst))
  | _ => .mismatch (.notOneOf (options.map Prod.fst))

/-- A value as a list of texts. -/
def asTexts (x : Datum) : Checked (List String) :=
  let read (xs : List Datum) : Checked (List String) :=
    .all (xs.zipIdx.map fun (d, i) => d.asText.within (Text.showNat i))
  match x with
  | .list xs => read xs
  | .pair a b => read [a, b]
  | .set xs => read xs
  | _ => .mismatch .notTuple

end Datum

/-- The entries of a record. -/
abbrev Entries := List (Datum × Datum)

namespace Entries

/-- A field that has to be there. -/
def required {α : Type} (es : Entries) (name : String) (read : Datum → Checked α) : Checked α :=
  match Datum.entry? name es with
  | some d => (read d).within name
  | none => (Checked.mismatch .missing).within name

/-- A field with a default. -/
def optional {α : Type} (es : Entries) (name : String) (default : α) (read : Datum → Checked α) :
    Checked α :=
  match Datum.entry? name es with
  | some d => (read d).within name
  | none => .ok default

/-- Whether all keys are texts. -/
def areNamed (es : Entries) : Bool :=
  es.all fun (k, _) => match k with
    | .text _ => true
    | _ => false

/-- The record with a title that entries with textual keys describe. -/
def build {α : Type} (es : Entries) (title : String) (read : Entries → Checked α) :
    Except KeywordFault α :=
  if es.areNamed then ((read es).titled title).mapError .invalid else .error .keyNotText

end Entries

end CaptureConfig
