import CaptureConfig.Assoc
import CaptureConfig.Datum.Show
import CaptureConfig.Text.Integer
import CaptureConfig.Text.Spelling

/-!
# The raw options of a connector

An option store maps option names to texts and keeps the order in which the names came. Its getters take
a key: a name, with the default of the field if the option is read through one. They fail where a text is
not of the kind that is asked for, and the fault names the option.
-/

namespace CaptureConfig

/-! ## The names of the options that every relational connector has -/

namespace OptionName

def serverName : String := "database.server.name"
def fetchSize : String := "snapshot.fetch.size"
def includedTables : String := "table.whitelist"
def excludedTables : String := "table.blacklist"
def ignoreBuiltin : String := "table.ignore.builtin"
def excludedColumns : String := "column.blacklist"
def includedSchemas : String := "schema.whitelist"
def excludedSchemas : String := "schema.blacklist"
def decimalMode : String := "decimal.handling.mode"
def snapshotOverrides : String := "snapshot.select.statement.overrides"

end OptionName

/-! ## Faults of options and fields -/

/-- Why an option cannot be read, or a field cannot be found or added. -/
inductive OptionFault where
  | notBoolean (value name : String)
  | notInteger (value name : String)
  | unknownField (name : String)
  | duplicateField (name : String)
  | unknownMode (name : String) (value default : Option String)
deriving Repr, DecidableEq

/-- The wording of a fault. -/
def OptionFault.message : OptionFault → String
  | .notBoolean value name => "Value '" ++ value ++ "' of '" ++ name ++ "' is not a boolean"
  | .notInteger value name => "Value '" ++ value ++ "' of '" ++ name ++ "' is not an integer"
  | .unknownField name => "Unknown configuration field: " ++ name
  | .duplicateField name => "Field '" ++ name ++ "' is already defined"
  | .unknownMode name value default =>
    "Cannot resolve '" ++ name ++ "' from value '" ++ value.getD "None" ++ "' or default '" ++
      default.getD "None" ++ "'"

/-! ## The store -/

/-- The options of a connector, each name once. -/
structure Options where
  entries : List (String × String)
  distinct : (entries.map Prod.fst).Nodup

/-- An option to be read: its name, and the default that its field defines. -/
structure OptionKey where
  name : String
  fallback : Option String := none
deriving Repr, DecidableEq

namespace Options

/-- No options. -/
def empty : Options := ⟨[], by simp⟩

instance : Inhabited Options := ⟨empty⟩

/-- The options with others put over them. -/
def withPairs (o : Options) (pairs : List (String × String)) : Options :=
  ⟨Assoc.insertAll o.entries pairs, Assoc.nodup_keys_insertAll o.distinct⟩

/-- The options given as pairs. -/
def ofPairs (pairs : List (String × String)) : Options := empty.withPairs pairs

/-- The text of an option. -/
def get? (o : Options) (name : String) : Option String := o.entries.lookup name

/-- Whether an option is there. -/
def contains (o : Options) (name : String) : Bool := (o.get? name).isSome

/-- The number of options. -/
def size (o : Options) : Nat := o.entries.length

/-- Whether two stores hold the same options, in whatever order. -/
def same (o p : Options) : Bool :=
  o.size == p.size && o.entries.all fun (k, v) => p.get? k == some v

/-- The text of an option; in its absence the given default, and in the absence of that the default of
its field. -/
def text? (o : Options) (key : OptionKey) (default : Option String := none) : Option String :=
  ((o.get? key.name).or default).or key.fallback

/-- The truth value that a text names. -/
def readFlag? (value : String) : Option Bool :=
  let word := Text.lowered (Text.trim value)
  if word = "true" then some true
  else if word = "false" then some false
  else none

/-- An option as a truth value; the given default is for an option without any text. -/
def flag? (o : Options) (key : OptionKey) (default : Option Bool := none) :
    Except OptionFault (Option Bool) :=
  match o.text? key with
  | none => .ok default
  | some value =>
    match readFlag? value with
    | some b => .ok (some b)
    | none => .error (.notBoolean value key.name)

/-- An option as an integer; the given default is for an option without any text. -/
def integer? (o : Options) (key : OptionKey) (default : Option Int := none) :
    Except OptionFault (Option Int) :=
  match o.text? key with
  | none => .ok default
  | some value =>
    match Text.readInteger value with
    | .ok i => .ok (some i)
    | .error _ => .error (.notInteger value key.name)

/-- The text of a scalar as an option: truth values in small letters. -/
def scalarText? : Datum → Option String
  | .bool b => some (if b then "true" else "false")
  | x => x.text?

/-- The options given as named values, without those that are null; none if a value has no text. -/
def ofScalars? (values : List (String × Datum)) : Option Options := do
  let kept := values.filter fun (_, v) => match v with | .null => false | _ => true
  let pairs ← kept.mapM fun (k, v) => (scalarText? v).map fun t => (k, t)
  return ofPairs pairs

/-- A store as text. -/
def text (o : Options) : String :=
  let words := o.entries.map fun (k, v) => Text.quoted k ++ ": " ++ Text.quoted v
  "Configuration(\x7b" ++ String.intercalate ", " words ++ "\x7d)"

end Options

end CaptureConfig
