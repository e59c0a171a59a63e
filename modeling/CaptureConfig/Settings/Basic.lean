import CaptureConfig.Option.Store
import CaptureConfig.Settings.Logging

/-!
# The settings of a configuration document

A document is a mapping with the sections `properties` and `logging`. The properties are flattened to
texts; an override of a property or of the level is put into its section before that is read.
-/

namespace CaptureConfig

/-- The settings of a document. -/
structure Settings where
  properties : List (String × String)
  logging : LoggingSettings
deriving Repr, DecidableEq, Inhabited

/-- Why a value cannot be copied as a mapping. -/
inductive CopyFault where
  | notIterable (kind : String)
  | notSequence (index : Nat)
  | wrongLength (index length : Nat)
  | notKey (kind : String)
deriving Repr, DecidableEq

/-- The wording of a fault. -/
def CopyFault.message : CopyFault → String
  | .notIterable kind => "'" ++ kind ++ "' object is not iterable"
  | .notSequence index =>
    "cannot convert dictionary update sequence element #" ++ Text.showNat index ++ " to a sequence"
  | .wrongLength index length =>
    "dictionary update sequence element #" ++ Text.showNat index ++ " has length " ++
      Text.showNat length ++ "; 2 is required"
  | .notKey kind => "unhashable type: '" ++ kind ++ "'"

/-- Why a document has no settings. -/
inductive SettingsFault where
  | notMapping
  | record (fault : KeywordFault)
  | copy (fault : CopyFault)
deriving Repr, DecidableEq

/-- The wording of a fault. -/
def SettingsFault.message : SettingsFault → String
  | .notMapping =>
    "Configuration must be a mapping with 'properties' and optional 'logging' sections"
  | .record (.invalid fault) => "Invalid configuration: " ++ fault.message
  | .record .keyNotText => KeywordFault.message .keyNotText
  | .copy fault => fault.message

namespace Datum

/-- The values that a value runs through. -/
def elements? : Datum → Option (List Datum)
  | .text s => some (s.toList.map fun c => .text c.toString)
  | .bytes bs => some (bs.map fun b => .int b.toNat)
  | .list xs => some xs
  | .pair x y => some [x, y]
  | .set xs => some xs
  | .map es => some (es.map Prod.fst)
  | _ => none

/-- The kind of the first part of a value that keeps it from being a key. -/
def keyObstacle : Datum → String
  | .pair x y => if x.isKey then y.keyObstacle else x.keyObstacle
  | x => x.kindName

/-- Pairs as entries of a mapping, put one after another. -/
def copyPairs : Nat → List Datum → Entries → Except CopyFault Entries
  | _, [], found => .ok found
  | i, x :: rest, found =>
    match x.elements? with
    | none => .error (.notSequence i)
    | some [k, v] =>
      if k.isKey then copyPairs (i + 1) rest (insertEntry k v found)
      else .error (.notKey k.keyObstacle)
    | some parts => .error (.wrongLength i parts.length)

/-- A copy of a value as a mapping: of a mapping, or of a sequence of pairs. -/
def copyAsMap : Datum → Except CopyFault Entries
  | .map es => .ok es
  | x =>
    match x.elements? with
    | some parts => copyPairs 0 parts []
    | none => .error (.notIterable x.kindName)

/-- The section of a document as a mapping to put overrides into: empty unless it passes a test of
truth. -/
def sectionOf (es : Entries) (name : String) : Except CopyFault Entries :=
  match entry? name es with
  | some d => if d.isTrue then d.copyAsMap else .ok []
  | none => .ok []

end Datum

namespace Settings

/-- The reason for refusing an integer of more than 4300 digits. -/
def tooLongToWrite : String :=
  "Exceeds the limit (4300 digits) for integer string conversion; " ++
    "use sys.set_int_max_str_digits() to increase the limit"

/-- The text of a key or a scalar. -/
def textOf (t : Option String) : Checked String :=
  match t with
  | some s => .ok s
  | none => .mismatch (.refused tooLongToWrite)

/-- Puts the entries of the properties section, one after another, as texts. Null entries are left out,
and mappings and lists are refused. -/
def flatten : Entries → List (String × String) → Checked (List (String × String))
  | [], found => .ok found
  | (k, v) :: rest, found =>
    match v with
    | .null => flatten rest found
    | .list _ => do refuse (← textOf k.text?) "list"
    | .map _ => do refuse (← textOf k.text?) "dict"
    | _ => do
      let value ← textOf (Options.scalarText? v)
      let key ← textOf k.text?
      flatten rest (Assoc.insert key value found)
where
  /-- The refusal of a collection. -/
  refuse (key kind : String) : Checked (List (String × String)) :=
    .mismatch (.refused ("Property '" ++ key ++ "' must be a scalar value, got " ++ kind))

/-- The properties section. -/
def readProperties : Datum → Checked (List (String × String))
  | .null => .ok []
  | .map es => flatten es []
  | _ => .mismatch (.refused "properties must be a mapping of option names to values")

/-- The settings that the sections of a document describe. -/
def ofEntries (es : Entries) : Checked Settings :=
  Checked.ap
    ((es.optional "properties" [] readProperties).map Settings.mk)
    (es.optional "logging" {} LoggingSettings.ofDatum)

/-- The document with properties put over its own. -/
def overrideProperties (overrides : List (String × String)) (es : Entries) :
    Except CopyFault Entries :=
  if overrides.isEmpty then .ok es
  else do
    let properties ← Datum.sectionOf es "properties"
    let merged := overrides.foldl (fun ps (k, v) => Datum.insertEntry (.text k) (.text v) ps) properties
    return Datum.insertEntry (.text "properties") (.map merged) es

/-- The document with another level, unless that is blank. -/
def overrideLevel (level : Option String) (es : Entries) : Except CopyFault Entries :=
  match level with
  | none => .ok es
  | some "" => .ok es
  | some s => do
    let logging ← Datum.sectionOf es "logging"
    let merged := Datum.insertEntry (.text "level") (.text s) logging
    return Datum.insertEntry (.text "logging") (.map merged) es

/-- The settings of a document, with overrides. -/
def ofDocument (document : Datum) (overrides : List (String × String) := [])
    (level : Option String := none) : Except SettingsFault Settings :=
  match document with
  | .map es => do
    let es ← (overrideProperties overrides es).mapError .copy
    let es ← (overrideLevel level es).mapError .copy
    (es.build "ConnectorSettings" ofEntries).mapError .record
  | _ => .error .notMapping

end Settings

end CaptureConfig
