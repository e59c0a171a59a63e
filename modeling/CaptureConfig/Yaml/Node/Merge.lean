import CaptureConfig.Yaml.Node.Basic

/-!
# Merged mappings

An entry whose key is a merge sign stands for the entries of the mapping, or of the mappings, that are
its value. They come before the other entries, so that those take precedence.
-/

namespace CaptureConfig.Yaml.Node

mutual

/-- The collection with a number, if it is in the tree. -/
def numbered? (number : Nat) : Node → Option Node
  | .sequence n t items m =>
    if n = number then some (.sequence n t items m) else numberedAmong? number items
  | .mapping n t entries m =>
    if n = number then some (.mapping n t entries m) else numberedInside? number entries
  | _ => none

/-- The collection with a number, if it is in one of the trees. -/
def numberedAmong? (number : Nat) : List Node → Option Node
  | [] => none
  | item :: rest => (numbered? number item).or (numberedAmong? number rest)

/-- The collection with a number, if it is in one of the entries. -/
def numberedInside? (number : Nat) : List (Node × Node) → Option Node
  | [] => none
  | (key, value) :: rest =>
    ((numbered? number key).or (numbered? number value)).or (numberedInside? number rest)

end

/-- The entries of a mapping as they are written. -/
def ownEntries : Node → List (Node × Node)
  | .mapping _ _ entries _ => entries
  | _ => []

/-- The entries of a mapping around a place, those with a merge sign apart. -/
def entriesAround (root : Node) (number : Nat) : List (Node × Node) :=
  (((root.numbered? number).map ownEntries).getD []).filter fun (key, _) => key.tag != .merge

/-- The key that an equals sign is. -/
def plainKey : Node → Node
  | .scalar .value text m => .scalar .str text m
  | .sequence n .value items m => .sequence n .str items m
  | .mapping n .value entries m => .mapping n .str entries m
  | key => key

/-- Complains about what stands where a mapping to be merged should. -/
def refuseMerge {α : Type} (start : Mark) (wanted : String) (found : Node) : Except Fault α :=
  .error (.marked (some (.constructing "a mapping", start)) (.expected wanted found.kind.name)
    found.mark)

mutual

/-- The entries that a node with a merge sign stands for, in a mapping that begins at a mark. -/
def merged (root : Node) (start : Mark) : Node → Except Fault (List (Node × Node))
  | .mapping _ _ entries m => do
    let (before, own) ← splitEntries root m entries
    return before ++ own
  | .around n .mapping _ _ => .ok (root.entriesAround n)
  | .sequence _ _ items _ => mergedAll root start items
  | value => refuseMerge start "a mapping or list of mappings for merging" value

/-- The entries of several mappings to be merged; the first of them take precedence. -/
def mergedAll (root : Node) (start : Mark) : List Node → Except Fault (List (Node × Node))
  | [] => .ok []
  | item :: rest => do
    let found ← match item with
      | .mapping _ _ entries m => do
        let (before, own) ← splitEntries root m entries
        pure (before ++ own)
      | .around n .mapping _ _ => pure (root.entriesAround n)
      | item => refuseMerge start "a mapping for merging" item
    return (← mergedAll root start rest) ++ found

/-- The merged entries and the others of a mapping that begins at a mark. -/
def splitEntries (root : Node) (start : Mark) :
    List (Node × Node) → Except Fault (List (Node × Node) × List (Node × Node))
  | [] => .ok ([], [])
  | (key, value) :: rest => do
    if key.tag = .merge then
      let found ← merged root start value
      let (before, own) ← splitEntries root start rest
      return (found ++ before, own)
    else
      let (before, own) ← splitEntries root start rest
      return (before, (key.plainKey, value) :: own)

end

/-- The entries of a mapping, after those that are merged into it. -/
def entries (root : Node) : Node → Except Fault (List (Node × Node))
  | .mapping _ _ es m => do
    let (before, own) ← splitEntries root m es
    return before ++ own
  | _ => .ok []

end CaptureConfig.Yaml.Node
