import CaptureConfig.Yaml.Fault
import CaptureConfig.Yaml.Tag

/-!
# The nodes of a document

A document is a tree of nodes. A node that is named again stands at every place where its name is; where
that is inside of the node itself, only its number is given.
-/

namespace CaptureConfig.Yaml

/-- The kinds of nodes. -/
inductive NodeKind where
  | scalar
  | sequence
  | mapping
deriving Repr, DecidableEq

/-- The name of a kind. -/
def NodeKind.name : NodeKind → String
  | .scalar => "scalar"
  | .sequence => "sequence"
  | .mapping => "mapping"

/-- A node, with the mark where it begins. Collections are numbered. -/
inductive Node where
  | scalar (tag : Tag) (text : String) (mark : Mark)
  | sequence (number : Nat) (tag : Tag) (items : List Node) (mark : Mark)
  | mapping (number : Nat) (tag : Tag) (entries : List (Node × Node)) (mark : Mark)
  /-- A collection around this place. -/
  | around (number : Nat) (kind : NodeKind) (tag : Tag) (mark : Mark)
deriving Repr

instance : Inhabited Node := ⟨.scalar .null "" {}⟩

namespace Node

/-- The mark where a node begins. -/
def mark : Node → Mark
  | .scalar _ _ m => m
  | .sequence _ _ _ m => m
  | .mapping _ _ _ m => m
  | .around _ _ _ m => m

/-- The tag of a node. -/
def tag : Node → Tag
  | .scalar t _ _ => t
  | .sequence _ t _ _ => t
  | .mapping _ t _ _ => t
  | .around _ _ t _ => t

/-- The kind of a node. -/
def kind : Node → NodeKind
  | .scalar _ _ _ => .scalar
  | .sequence _ _ _ _ => .sequence
  | .mapping _ _ _ _ => .mapping
  | .around _ k _ _ => k

/-- The number of a collection. -/
def number? : Node → Option Nat
  | .scalar _ _ _ => none
  | .sequence n _ _ _ => some n
  | .mapping n _ _ _ => some n
  | .around n _ _ _ => some n

/-- The scalar that stands where nothing is written. -/
def nothing (mark : Mark) : Node := .scalar .null "" mark

end Node

end CaptureConfig.Yaml
