import CaptureConfig.Calendar
import CaptureConfig.Decimal.Shortest

/-!
# Values of unknown shape

A datum is what a configuration document may hold at any place. Keys of a mapping count as the same when
they are equal as numbers or are the same text: `1`, `1.0` and `true` are one key.
-/

namespace CaptureConfig

/-- A value of a configuration document. -/
inductive Datum where
  | null
  | bool (b : Bool)
  | int (i : Int)
  | float (x : Binary64)
  | text (s : String)
  | bytes (bs : List UInt8)
  | date (d : Date)
  | moment (m : Moment)
  | list (xs : List Datum)
  | pair (x y : Datum)
  | set (xs : List Datum)
  | map (entries : List (Datum × Datum))
deriving Repr, Inhabited

namespace Datum

/-- The number that a value is, the two truth values being nought and one. -/
def number? : Datum → Option (Int ⊕ Binary64)
  | .bool b => some (.inl (if b then 1 else 0))
  | .int i => some (.inl i)
  | .float x => some (.inr x)
  | _ => none

/-- Whether two numbers are equal. -/
def sameNumber : Int ⊕ Binary64 → Int ⊕ Binary64 → Bool
  | .inl i, .inl j => i == j
  | .inl i, .inr x => x.toInt? == some i
  | .inr x, .inl i => x.toInt? == some i
  | .inr x, .inr y => x.same y

/-- Whether two values are the same key of a mapping. -/
def sameKey : Datum → Datum → Bool
  | .null, .null => true
  | .text s, .text t => s == t
  | .bytes a, .bytes b => a == b
  | .date a, .date b => a == b
  | .moment a, .moment b => a == b
  | .pair a b, .pair c d => sameKey a c && sameKey b d
  | x, y =>
    match x.number?, y.number? with
    | some a, some b => sameNumber a b
    | _, _ => false

/-- Whether a value can be a key of a mapping. -/
def isKey : Datum → Bool
  | .list _ => false
  | .set _ => false
  | .map _ => false
  | .pair x y => x.isKey && y.isKey
  | _ => true

/-- Whether a value passes a test of truth: nothing empty does, and no zero. -/
def isTrue : Datum → Bool
  | .null => false
  | .bool b => b
  | .int i => i != 0
  | .float x => x.isTrue
  | .text s => s != ""
  | .bytes bs => !bs.isEmpty
  | .date _ => true
  | .moment _ => true
  | .list xs => !xs.isEmpty
  | .pair _ _ => true
  | .set xs => !xs.isEmpty
  | .map entries => !entries.isEmpty

/-- The value at a key: an entry with the same key keeps its place and its key, a new one comes last. -/
def insertEntry (key value : Datum) : List (Datum × Datum) → List (Datum × Datum)
  | [] => [(key, value)]
  | (k, v) :: rest =>
    if sameKey k key then (k, value) :: rest else (k, v) :: insertEntry key value rest

/-- The entries of a mapping built in the given order. -/
def entriesOf (pairs : List (Datum × Datum)) : List (Datum × Datum) :=
  pairs.foldl (fun entries (k, v) => insertEntry k v entries) []

/-- The value at a textual key. -/
def entry? (name : String) (entries : List (Datum × Datum)) : Option Datum :=
  (entries.find? fun (k, _) => sameKey k (.text name)).map Prod.snd

/-- The word for the kind of a value. -/
def kindName : Datum → String
  | .null => "NoneType"
  | .bool _ => "bool"
  | .int _ => "int"
  | .float _ => "float"
  | .text _ => "str"
  | .bytes _ => "bytes"
  | .date _ => "datetime.date"
  | .moment _ => "datetime.datetime"
  | .list _ => "list"
  | .pair _ _ => "tuple"
  | .set _ => "set"
  | .map _ => "dict"

end Datum

end CaptureConfig
