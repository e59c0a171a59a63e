import CaptureConfig.Assoc
import CaptureConfig.Yaml.Node.Basic
import CaptureConfig.Yaml.Token.Stream

/-!
# Nodes from tokens

A node is an alias, or a scalar or collection with an optional anchor and tag. Names are looked up as
soon as they are read, so that the first fault of the document is the one that is found.
-/

namespace CaptureConfig.Yaml

/-- What is known while nodes are read. -/
structure Reading where
  tokens : List Token
  /-- The fault after the last token. -/
  fault : Option Fault
  /-- The handles of tags and what they stand for. -/
  handles : List (String × String) := []
  /-- The nodes that have names. -/
  anchors : List (String × Node) := []
  /-- The number of collections so far. -/
  collections : Nat := 0

/-- A step of reading nodes. -/
abbrev Grammar := StateT Reading (Except Fault)

namespace Grammar

/-- The next token. -/
def peek : Grammar Token := do
  let r ← get
  match r.tokens, r.fault with
  | t :: _, _ => return t
  | [], some fault => throw fault
  | [], none => return ⟨.streamEnd, {}, {}⟩

/-- Passes over the next token. -/
def skip : Grammar Unit := modify fun r => { r with tokens := r.tokens.drop 1 }

/-- Takes the next token. -/
def take : Grammar Token := do
  let t ← peek
  skip
  return t

/-- Whether the next token is of one of the given kinds. -/
def atAny (kinds : List TokenKind) : Grammar Bool := do
  return kinds.contains (← peek).kind

/-- Complains about the next token. -/
def refuse {α : Type} (activity : Option (Activity × Mark)) (problem : String → Problem) :
    Grammar α := do
  let t ← peek
  throw (.marked activity (problem (Text.quoted t.kind.name)) t.start)

/-- The handles that every document knows. -/
def commonHandles : List (String × String) := [("!", "!"), ("!!", Tag.lead)]

/-- The anchor and the tag of a node, and where they begin. -/
structure Properties where
  anchor : Option String := none
  tag : Option String := none
  start : Option Mark := none

/-- The anchor here, if there is one. -/
def anchor? : Grammar (Option (String × Mark)) := do
  let t ← peek
  match t.kind with
  | .anchor name =>
    skip
    return some (name, t.start)
  | _ => return none

/-- The tag here, if there is one, with its handle. -/
def tag? : Grammar (Option (Option String × String × Mark)) := do
  let t ← peek
  match t.kind with
  | .tag handle suffix =>
    skip
    return some (handle, suffix, t.start)
  | _ => return none

/-- The text of a tag whose handle is replaced by what it stands for. -/
def expand (start : Mark) : Option String × String × Mark → Grammar String
  | (none, suffix, _) => return suffix
  | (some handle, suffix, mark) => do
    match (← get).handles.lookup handle with
    | some lead => return lead ++ suffix
    | none => throw (.marked (some (.parsing "a node", start)) (.unknownHandle handle) mark)

/-- The anchor and the tag here, in either order. -/
def properties : Grammar Properties := do
  let first ← anchor?
  let tag ← tag?
  let anchor ← if first.isNone && tag.isSome then anchor? else pure first
  let start := (first.map Prod.snd).or (tag.map fun (_, _, mark) => mark)
  let text ← match tag, start with
    | some tag, some start => some <$> expand start tag
    | _, _ => pure none
  return { anchor := anchor.map Prod.fst, tag := text, start }

/-- The tag of a scalar: told by its shape if it is plain or its tag is an exclamation mark. -/
def scalarTag (tag : Option String) (plain : Bool) (text : String) : Tag :=
  match tag with
  | none => if plain then .ofShape text.toList else .str
  | some "!" => .ofShape text.toList
  | some t => .ofText t

/-- The tag of a collection. -/
def collectionTag (tag : Option String) (default : Tag) : Tag :=
  match tag with
  | none => default
  | some "!" => default
  | some t => .ofText t

/-- Refuses the name of a node if another node has it. -/
def requireNew (name : Option String) (start : Mark) : Grammar Unit := do
  if let some name := name then
    if let some node := (← get).anchors.lookup name then
      throw (.marked (some (.firstAnchor name, node.mark)) .secondAnchor start)

/-- Gives a node its name. -/
def bind (name : Option String) (node : Node) : Grammar Unit :=
  modify fun r => match name with
    | some name => { r with anchors := Assoc.insert name node r.anchors }
    | none => r

/-- The node that an alias names. -/
def aliased (name : String) (mark : Mark) : Grammar Node := do
  match (← get).anchors.lookup name with
  | some node => return node
  | none => throw (.marked none (.unknownAlias name) mark)

/-- A scalar with its name. -/
def scalar (p : Properties) (plain : Bool) (text : String) (start : Mark) : Grammar Node := do
  requireNew p.anchor start
  let node := Node.scalar (scalarTag p.tag plain text) text start
  bind p.anchor node
  return node

/-- A collection with its name. While its parts are read the name stands for the collection around
them. -/
def collection (p : Properties) (kind : NodeKind) (start : Mark)
    (read : Nat → Tag → Grammar Node) : Grammar Node := do
  requireNew p.anchor start
  let tag := collectionTag p.tag (if kind = .sequence then .sequence else .mapping)
  let number := (← get).collections
  modify fun r => { r with collections := number + 1 }
  bind p.anchor (.around number kind tag start)
  let node ← read number tag
  bind p.anchor node
  return node

/-- Passes over the comma between parts of a collection in brackets. -/
def separator (mark : Mark) (what wanted : String) : Grammar Unit := do
  if ← atAny [.flowEntry] then skip
  else refuse (some (.parsing what, mark)) (.got wanted)

mutual

/-- A node. Block collections are read only where they are allowed, and a sequence that is not indented
only as a part of a mapping. -/
def node (block unindented : Bool) : Nat → Grammar Node
  | 0 => return default
  | n + 1 => do
    let t ← peek
    if let .alias name := t.kind then
      skip
      aliased name t.start
    else
      let p ← properties
      let t ← peek
      let start := p.start.getD t.start
      let sequenceOf (read : Grammar (List Node)) : Grammar Node :=
        collection p .sequence start fun number tag => do
          return .sequence number tag (← read) start
      let mappingOf (read : Grammar (List (Node × Node))) : Grammar Node :=
        collection p .mapping start fun number tag => do
          return .mapping number tag (← read) start
      match t.kind with
      | .scalar plain text => skip; scalar p plain text start
      | .flowSequence => sequenceOf do skip; flowItems t.start n true
      | .flowMapping => mappingOf do skip; flowEntries t.start n true
      | kind =>
        if unindented && kind = .blockEntry then sequenceOf (unindentedItems n)
        else if block && kind = .blockSequence then sequenceOf do skip; blockItems t.start n
        else if block && kind = .blockMapping then mappingOf do skip; blockEntries t.start n
        else if p.anchor.isSome || p.tag.isSome then scalar p p.tag.isNone "" start
        else
          let what := if block then "a block node" else "a flow node"
          refuse (some (.parsing what, start)) (.expected "the node content")

/-- A node, or nothing before one of the given tokens. -/
def nodeUnless (ends : List TokenKind) (block unindented : Bool) (mark : Mark) :
    Nat → Grammar Node
  | 0 => return default
  | n + 1 => do if ← atAny ends then return .nothing mark else node block unindented n

/-- The items of an indented sequence that begins at a mark. -/
def blockItems (mark : Mark) : Nat → Grammar (List Node)
  | 0 => return []
  | n + 1 => do
    let t ← peek
    match t.kind with
    | .blockEntry =>
      skip
      let item ← nodeUnless [.blockEntry, .blockEnd] true false t.stop n
      return item :: (← blockItems mark n)
    | .blockEnd => skip; return []
    | _ => refuse (some (.parsing "a block collection", mark)) (.expected "<block end>")

/-- The items of a sequence that is not indented. -/
def unindentedItems : Nat → Grammar (List Node)
  | 0 => return []
  | n + 1 => do
    let t ← peek
    if t.kind = .blockEntry then
      skip
      let item ← nodeUnless [.blockEntry, .key, .value, .blockEnd] true false t.stop n
      return item :: (← unindentedItems n)
    else return []

/-- The entries of an indented mapping that begins at a mark. -/
def blockEntries (mark : Mark) : Nat → Grammar (List (Node × Node))
  | 0 => return []
  | n + 1 => do
    let t ← peek
    match t.kind with
    | .key =>
      skip
      let key ← nodeUnless [.key, .value, .blockEnd] true true t.stop n
      let value ← valueAfterColon [.key, .value, .blockEnd] true n
      return (key, value) :: (← blockEntries mark n)
    | .blockEnd => skip; return []
    | _ => refuse (some (.parsing "a block mapping", mark)) (.expected "<block end>")

/-- The value after a colon; nothing if there is no colon, or one of the given tokens after it. -/
def valueAfterColon (ends : List TokenKind) (block : Bool) : Nat → Grammar Node
  | 0 => return default
  | n + 1 => do
    let t ← peek
    if t.kind = .value then
      skip
      nodeUnless ends block block t.stop n
    else return .nothing t.start

/-- The items of a sequence in brackets that begins at a mark. -/
def flowItems (mark : Mark) : Nat → Bool → Grammar (List Node)
  | 0, _ => return []
  | n + 1, first => do
    if ← atAny [.flowSequenceEnd] then skip; return []
    else
      if !first then separator mark "a flow sequence" "',' or ']'"
      let t ← peek
      if t.kind = .flowSequenceEnd then skip; return []
      else
        let item ← if t.kind = .key then singleEntry n else node false false n
        return item :: (← flowItems mark n false)

/-- A mapping of one entry in a sequence in brackets. -/
def singleEntry : Nat → Grammar Node
  | 0 => return default
  | n + 1 => do
    let start := (← peek).start
    collection {} .mapping start fun number tag => do
      let t ← take
      let key ← nodeUnless [.value, .flowEntry, .flowSequenceEnd] false false t.stop n
      let value ← valueAfterColon [.flowEntry, .flowSequenceEnd] false n
      return .mapping number tag [(key, value)] start

/-- The entries of a mapping in braces that begins at a mark. -/
def flowEntries (mark : Mark) : Nat → Bool → Grammar (List (Node × Node))
  | 0, _ => return []
  | n + 1, first => do
    if ← atAny [.flowMappingEnd] then skip; return []
    else
      if !first then separator mark "a flow mapping" "',' or '\x7d'"
      let t ← peek
      if t.kind = .flowMappingEnd then skip; return []
      else if t.kind = .key then
        skip
        let key ← nodeUnless [.value, .flowEntry, .flowMappingEnd] false false t.stop n
        let value ← valueAfterColon [.flowEntry, .flowMappingEnd] false n
        return (key, value) :: (← flowEntries mark n false)
      else
        let key ← node false false n
        let value := Node.nothing (← peek).start
        return (key, value) :: (← flowEntries mark n false)

end

end Grammar

end CaptureConfig.Yaml
