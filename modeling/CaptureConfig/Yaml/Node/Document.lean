import CaptureConfig.Yaml.Node.Grammar

/-!
# The node of a stream

A stream holds at most one document. Directives come before the mark that begins it.
-/

namespace CaptureConfig.Yaml

namespace Grammar

/-- The kinds of tokens between documents, the end mark of a document apart. -/
def atBoundary : Grammar Bool := do
  match (← peek).kind with
  | .version _ _ => return true
  | .handle _ _ => return true
  | .otherDirective => return true
  | .documentStart => return true
  | .streamEnd => return true
  | _ => return false

/-- Passes over marks that end documents. -/
def skipEnds : Nat → Grammar Unit
  | 0 => return
  | n + 1 => do
    if ← atAny [.documentEnd] then
      skip
      skipEnds n

/-- Reads directives: the first argument after the bound says whether a version was given. -/
def directives : Nat → Bool → Grammar Unit
  | 0, _ => return
  | n + 1, versioned => do
    let t ← peek
    match t.kind with
    | .version major _ =>
      skip
      if versioned then throw (.marked none .secondVersion t.start)
      if major ≠ 1 then throw (.marked none .futureVersion t.start)
      directives n true
    | .handle handle lead =>
      skip
      if ((← get).handles.lookup handle).isSome then
        throw (.marked none (.secondHandle handle) t.start)
      modify fun r => { r with handles := r.handles ++ [(handle, lead)] }
      directives n versioned
    | .otherDirective =>
      skip
      directives n versioned
    | _ => return

/-- Reads what comes before a document: directives and the mark that begins it. Gives the place where
that begins, or none at the end of the stream. -/
def documentStart? (bound : Nat) : Grammar (Option Mark) := do
  skipEnds bound
  let t ← peek
  if t.kind = .streamEnd then return none
  else
    modify fun r => { r with handles := [] }
    directives bound false
    modify fun r => { r with handles := r.handles ++ commonHandles }
    if !(← atAny [.documentStart]) then refuse none (.expected "'<document start>'")
    skip
    return some t.start

/-- The node of a document whose beginning is marked. -/
def markedDocument (bound : Nat) : Grammar Node := do
  if (← atBoundary) || (← atAny [.documentEnd]) then return .nothing (← peek).start
  else node true false bound

/-- The node of the first document, if there is one. -/
def document? (bound : Nat) : Grammar (Option Node) := do
  if ← atBoundary then
    match ← documentStart? bound with
    | some _ => some <$> markedDocument bound
    | none => return none
  else
    modify fun r => { r with handles := commonHandles }
    some <$> node true false bound

/-- The node of a stream of one document. -/
def stream? (bound : Nat) : Grammar (Option Node) := do
  match ← document? bound with
  | none => return none
  | some root =>
    if ← atAny [.documentEnd] then skip
    match ← documentStart? bound with
    | none => return some root
    | some start => throw (.marked (some (.singleDocument, root.mark)) .secondDocument start)

end Grammar

/-- The node of a stream of tokens. -/
def Node.ofTokens? (s : TokenStream) : Except Fault (Option Node) :=
  ((Grammar.stream? (4 * s.tokens.length + 8)).run' { tokens := s.tokens, fault := s.fault })

end CaptureConfig.Yaml
