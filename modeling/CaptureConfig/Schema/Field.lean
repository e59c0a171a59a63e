import CaptureConfig.Option.Store
import CaptureConfig.Schema.Problem

/-!
# Fields and schemas

A field describes one option. A schema is a list of fields with pairwise distinct names.
-/

namespace CaptureConfig

/-- The kinds of option values. -/
inductive FieldKind where
  | string
  | list
  | boolean
  | int
deriving Repr, DecidableEq, Inhabited

/-- How wide an option is displayed. -/
inductive FieldWidth where
  | none
  | short
  | medium
  | long
deriving Repr, DecidableEq, Inhabited

/-- How important an option is. -/
inductive Importance where
  | high
  | medium
  | low
deriving Repr, DecidableEq, Inhabited

/-- The checks that a field can ask for. -/
inductive Check where
  /-- There is a value that is not blank. -/
  | required
  /-- The value is a truth value. -/
  | boolean
  /-- The value is an integer. -/
  | integer
  /-- The value is an integer above zero. -/
  | positiveInteger
  /-- The value is a list of regular expressions. -/
  | patternList
  /-- The value names a decimal mode. -/
  | decimalMode
  /-- Tables are not both included and excluded. -/
  | tableLists
  /-- Schemas are not both included and excluded. -/
  | schemaLists
deriving Repr, DecidableEq, Inhabited

/-- The description of one option. -/
structure Field where
  name : String
  displayName : String
  kind : FieldKind := .string
  width : FieldWidth := .none
  importance : Importance := .medium
  default : Option String := none
  description : String := ""
  dependents : List String := []
  checks : List Check := []
deriving Repr, DecidableEq, Inhabited

/-- The key under which the option of a field is read. -/
def Field.key (f : Field) : OptionKey := ⟨f.name, f.default⟩

/-- The fields of a connector. -/
structure Schema where
  fields : List Field
  distinct : (fields.map Field.name).Nodup

namespace Schema

/-- The schema without fields. -/
def empty : Schema := ⟨[], by simp⟩

instance : Inhabited Schema := ⟨empty⟩

/-- The names of the fields in order. -/
def names (s : Schema) : List String := s.fields.map Field.name

/-- The schema with one more field at the end. -/
def add? (s : Schema) (f : Field) : Except OptionFault Schema :=
  if h : f.name ∈ s.names then .error (.duplicateField f.name)
  else .ok ⟨s.fields ++ [f], by
    rw [List.map_append, List.nodup_append]
    refine ⟨s.distinct, by simp, ?_⟩
    intro a ha b hb
    have hb' : b = f.name := by simpa using hb
    rintro rfl
    exact h (hb' ▸ ha)⟩

/-- The schema with more fields at the end. -/
def extend? (s : Schema) (fields : List Field) : Except OptionFault Schema :=
  fields.foldlM add? s

/-- The schema with the given fields. -/
def ofFields? (fields : List Field) : Except OptionFault Schema := empty.extend? fields

/-- The field with the given name. -/
def field? (s : Schema) (name : String) : Except OptionFault Field :=
  match s.fields.find? fun f => f.name == name with
  | some f => .ok f
  | none => .error (.unknownField name)

/-- Whether there is a field with the given name. -/
def contains (s : Schema) (name : String) : Bool := s.names.contains name

end Schema

end CaptureConfig
