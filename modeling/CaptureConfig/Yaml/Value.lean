import CaptureConfig.Yaml.Node.Document
import CaptureConfig.Yaml.Node.Merge
import CaptureConfig.Yaml.Scalar.Value

/-!
# The value of a document

Scalars are read where they stand; the parts of a collection are read when all collections before it have
been, level by level from the root. The first fault in this order is the fault of the document.
-/

namespace CaptureConfig.Yaml

namespace Node

/-- Whether the tag of a node is that of a collection, whose parts are read later. -/
def isLater (node : Node) : Bool :=
  match node.tag with
  | .orderedMap => true
  | .pairs => true
  | .set => true
  | .sequence => true
  | .mapping => true
  | _ => false

mutual

/-- The text of a node that has to be a scalar; a mapping may have one at an equals sign. -/
def scalarText? : Node → Option String
  | .scalar _ text _ => some text
  | .mapping _ _ entries _ => defaultText? entries
  | _ => none

/-- The text at the first equals sign among the keys. -/
def defaultText? : List (Node × Node) → Option String
  | [] => none
  | (key, value) :: rest => if key.tag = .value then scalarText? value else defaultText? rest

end

/-- Complains that a node is not of the kind that its tag calls for. -/
def refuseKind {α : Type} (wanted : String) (node : Node) : Except Fault α :=
  .error (.marked none (.expected wanted node.kind.name) node.mark)

/-- The value of a node that is read where it stands. -/
def scalarValue (node : Node) : Except Fault Datum :=
  match node.tag with
  | .merge => .error (.marked none (.unknownTag node.tag.text) node.mark)
  | .value => .error (.marked none (.unknownTag node.tag.text) node.mark)
  | .other text => .error (.marked none (.unknownTag text) node.mark)
  | tag =>
    match node.scalarText? with
    | some text => Scalar.value tag text node.mark
    | none => refuseKind "a scalar node" node

/-- Reads a node where it stands, if that is possible; otherwise it is among those to be read later. -/
def visit (node : Node) : Except Fault (List Node) :=
  if node.isLater then .ok [node]
  else do
    let _ ← node.scalarValue
    return []

/-- The keys and values of a mapping, those to be read later. No collection can be a key. -/
def visitEntries (start : Mark) : List (Node × Node) → Except Fault (List Node)
  | [] => .ok []
  | (key, value) :: rest => do
    let keys ← key.visit
    unless keys.isEmpty do
      throw (.marked (some (.constructing "a mapping", start)) .unhashableKey key.mark)
    let later ← value.visit
    return later ++ (← visitEntries start rest)

/-- The single entry of an item of an ordered mapping or a list of pairs. -/
def singleEntry (root : Node) (what : String) (start : Mark) (item : Node) :
    Except Fault (Node × Node) :=
  let refuse (problem : Problem) : Except Fault (Node × Node) :=
    .error (.marked (some (.constructing what, start)) problem item.mark)
  let single (entries : List (Node × Node)) : Except Fault (Node × Node) :=
    match entries with
    | [entry] => .ok entry
    | _ => refuse (.expected "a single mapping item" (Text.showNat entries.length ++ " items"))
  match item with
  | .mapping _ _ entries _ => single entries
  | .around n .mapping _ _ => single (((root.numbered? n).map ownEntries).getD [])
  | _ => refuse (.expected "a mapping of length 1" item.kind.name)

/-- The entries of an ordered mapping or a list of pairs. -/
def pairEntries (root : Node) (what : String) (node : Node) : Except Fault (List (Node × Node)) :=
  match node with
  | .sequence _ _ items m => items.mapM (singleEntry root what m)
  | _ =>
    .error (.marked (some (.constructing what, node.mark))
      (.expected "a sequence" node.kind.name) node.mark)

/-- The parts of pairs that are to be read later. -/
def visitPairs (root : Node) (what : String) (start : Mark) : List Node → Except Fault (List Node)
  | [] => .ok []
  | item :: rest => do
    let (key, value) ← singleEntry root what start item
    let first ← key.visit
    let second ← value.visit
    return first ++ second ++ (← visitPairs root what start rest)

/-- What an ordered mapping or a list of pairs is called. -/
def pairsName (tag : Tag) : String := if tag = .orderedMap then "an ordered map" else "pairs"

/-- Reads the parts of a collection: gives those that are to be read later. -/
def visitParts (root node : Node) : Except Fault (List Node) :=
  match node.tag with
  | .sequence =>
    match node with
    | .sequence _ _ items _ => (items.mapM visit).map List.flatten
    | _ => refuseKind "a sequence node" node
  | .orderedMap | .pairs =>
    let what := pairsName node.tag
    match node with
    | .sequence _ _ items m => visitPairs root what m items
    | _ => (pairEntries root what node).map fun _ => []
  | _ =>
    if node.kind = .mapping then do visitEntries node.mark (← root.entries node)
    else refuseKind "a mapping node" node

/-- The nodes with numbers that are not known yet, each once; a node without a number is always new. -/
def fresh : List Nat → List Node → List Nat × List Node
  | known, [] => (known, [])
  | known, node :: rest =>
    match node.number? with
    | none =>
      let (known, news) := fresh known rest
      (known, node :: news)
    | some n =>
      if known.contains n then fresh known rest
      else
        let (known, news) := fresh (n :: known) rest
        (known, node :: news)

/-- Reads collections one after another, and after them the collections that are their parts. The first
argument bounds their number. -/
def visitAll (root : Node) : Nat → List Nat → List Node → Except Fault Unit
  | 0, _, _ => .ok ()
  | _ + 1, _, [] => .ok ()
  | n + 1, known, node :: rest => do
    let parts ← visitParts root node
    let (known, news) := fresh known parts
    visitAll root n known (rest ++ news)

/-- Whether a tree can be read, and otherwise its first fault. -/
def check (root : Node) (bound : Nat) : Except Fault Unit := do
  let later ← root.visit
  let (known, news) := fresh [] later
  visitAll root bound known news

/-- How often a collection is written out again inside of itself. -/
def repetitions : Nat := 2

/-- The value of a tree that can be read. The first argument bounds its depth, the second the number of
times that a collection is written out inside of itself. -/
def value (root : Node) : Nat → Nat → Node → Datum
  | 0, _, _ => .null
  | n + 1, again, node =>
    let pairs (entries : Except Fault (List (Node × Node))) : List (Datum × Datum) :=
      (entries.toOption.getD []).map fun (k, v) => (root.value n again k, root.value n again v)
    match node with
    | .around number _ _ _ =>
      match again, root.numbered? number with
      | again + 1, some found => root.value n again found
      | _, _ => .null
    | _ =>
      match node.tag with
      | .sequence =>
        match node with
        | .sequence _ _ items _ => .list (items.map (root.value n again))
        | _ => .null
      | .orderedMap | .pairs =>
        .list ((pairs (pairEntries root (pairsName node.tag) node)).map fun (k, v) => .pair k v)
      | .set => .set ((Datum.entriesOf (pairs (root.entries node))).map Prod.fst)
      | .mapping => .map (Datum.entriesOf (pairs (root.entries node)))
      | _ => (node.scalarValue).toOption.getD .null

end Node

/-- Characters that a document may hold. -/
def isAcceptable (c : Char) : Bool :=
  let n := c.toNat
  n == 9 || n == 10 || n == 13 || (0x20 ≤ n && n ≤ 0x7e) || n == 0x85 || (0xa0 ≤ n && n ≤ 0xfffd) ||
    0x10000 ≤ n

/-- The first character that a document may not hold. -/
def unacceptable? : Nat → List Char → Option Fault
  | _, [] => none
  | place, c :: cs => if isAcceptable c then unacceptable? (place + 1) cs else some (.unacceptable c place)

/-- The value of a document; a document without a node has none, which is null. -/
def load (cs : List Char) : Except Fault Datum := do
  if let some fault := unacceptable? 0 cs then throw fault
  let s := TokenStream.ofChars cs
  match ← Node.ofTokens? s with
  | none => return .null
  | some root =>
    let bound := s.tokens.length + 1
    root.check bound
    return root.value (4 * bound) Node.repetitions root

end CaptureConfig.Yaml
