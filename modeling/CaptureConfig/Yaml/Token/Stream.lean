import CaptureConfig.Yaml.Token.BlockText
import CaptureConfig.Yaml.Token.PlainText
import CaptureConfig.Yaml.Token.QuotedText

/-!
# The tokens of a document

Collections that are told by indentation get tokens of their own where they begin and end. Whether a
token begins a key of a mapping is seen only at the colon after it, which must stand on the same line;
the tokens for the key are then put in before it. A token is given out when it can no longer turn out to
be a key, so a fault hides the tokens from the first possible key on.
-/

namespace CaptureConfig.Yaml

/-- A token that may turn out to be a key of a mapping. -/
structure PossibleKey where
  /-- The number of brackets around the key. -/
  depth : Nat
  /-- The number of the token. -/
  number : Nat
  /-- Whether nothing but a key may stand here. -/
  required : Bool
  place : Nat
  mark : Mark
deriving Repr, DecidableEq

/-- What is known while the tokens of a document are taken. -/
structure Lexing where
  cursor : Cursor
  tokens : Array Token := #[]
  /-- The number of open brackets. -/
  depth : Nat := 0
  /-- One more than the column of the innermost collection told by indentation; nought outside of any. -/
  margin : Nat := 0
  /-- The margins around the innermost one. -/
  margins : List Nat := []
  /-- Whether a key may begin here. -/
  allowsKey : Bool := true
  keys : List PossibleKey := []
  done : Bool := false

/-- A step of taking tokens. -/
abbrev Lexer := StateT Lexing (Except Fault)

namespace Lexer

/-- Reads with the cursor. -/
def scan {α : Type} (read : Scanner α) : Lexer α := fun l =>
  match read l.cursor with
  | .ok (a, cursor) => .ok (a, { l with cursor })
  | .error fault => .error fault

/-- The present mark. -/
def mark : Lexer Mark := return (← get).cursor.mark

/-- Adds a token. -/
def emit (t : Token) : Lexer Unit := modify fun l => { l with tokens := l.tokens.push t }

/-- Adds a token without text. -/
def emitHere (kind : TokenKind) : Lexer Unit := do
  let m ← mark
  emit ⟨kind, m, m⟩

/-- Says whether a key may begin next. -/
def allowKey (b : Bool) : Lexer Unit := modify fun l => { l with allowsKey := b }

/-- Complains that a required key has no colon. -/
def complainAbout (key : PossibleKey) : Lexer Unit := do
  throw (.marked (some (.scanning "a simple key", key.mark)) .noColon (← mark))

/-- Whether a possible key can no longer be one: keys end on their line, within 1024 characters. -/
def isStale (s : Cursor) (key : PossibleKey) : Bool :=
  key.mark.line != s.mark.line || 1024 < s.place - key.place

/-- Drops the keys that can no longer be ones. -/
def dropStaleKeys : Lexer Unit := do
  let l ← get
  match l.keys.find? fun key => isStale l.cursor key && key.required with
  | some key => complainAbout key
  | none => set { l with keys := l.keys.filter fun key => !isStale l.cursor key }

/-- Drops the possible key at the present depth. -/
def dropKey : Lexer Unit := do
  let l ← get
  match l.keys.find? fun key => key.depth == l.depth && key.required with
  | some key => complainAbout key
  | none => set { l with keys := l.keys.filter fun key => key.depth != l.depth }

/-- Notes that the next token may turn out to be a key. -/
def noteKey : Lexer Unit := do
  if (← get).allowsKey then
    dropKey
    modify fun l =>
      let s := l.cursor
      let key : PossibleKey :=
        { depth := l.depth, number := l.tokens.size, place := s.place, mark := s.mark,
          required := l.depth = 0 && l.margin = s.mark.column + 1 }
      { l with keys := l.keys ++ [key] }

/-- The tokens for the ends of the collections with a margin above the given one. -/
def closeMargins (target : Nat) (here : Mark) (l : Lexing) : List Nat → Lexing
  | [] => l
  | outer :: margins =>
    if target < l.margin then
      closeMargins target here
        { l with margin := outer, margins, tokens := l.tokens.push ⟨.blockEnd, here, here⟩ } margins
    else l

/-- Ends the collections that are indented deeper than the given margin. -/
def unwind (target : Nat) : Lexer Unit := modify fun l =>
  if l.depth = 0 then closeMargins target l.cursor.mark l l.margins else l

/-- Begins a collection at a column, unless one begins there already; the token that says so has the
given number. -/
def openMargin (kind : TokenKind) (number : Nat) (here : Mark) : Lexer Unit := modify fun l =>
  if l.margin < here.column + 1 then
    { l with margin := here.column + 1, margins := l.margin :: l.margins,
             tokens := l.tokens.insertIdxIfInBounds number ⟨kind, here, here⟩ }
  else l

/-- Refuses an indicator of a collection where none can begin. -/
def requirePlaceFor (what : String) : Lexer Unit := do
  if !(← get).allowsKey then throw (.marked none (.notAllowed what) (← mark))

/-- Takes an indicator of the given length. -/
def indicator (kind : TokenKind) (length : Nat := 1) : Lexer Unit := do
  emit (← scan (Scanner.token fun _ => do
    Scanner.skip length
    return kind))

/-- The end of the document. -/
def fetchEnd : Lexer Unit := do
  unwind 0
  dropKey
  emitHere .streamEnd
  modify fun l => { l with allowsKey := false, keys := [], done := true }

/-- A directive, or a mark between documents. -/
def fetchBetweenDocuments (fetch : Lexer Unit) : Lexer Unit := do
  unwind 0
  dropKey
  allowKey false
  fetch

/-- An opening bracket. -/
def fetchOpening (kind : TokenKind) : Lexer Unit := do
  noteKey
  modify fun l => { l with depth := l.depth + 1, allowsKey := true }
  indicator kind

/-- A closing bracket. -/
def fetchClosing (kind : TokenKind) : Lexer Unit := do
  dropKey
  modify fun l => { l with depth := l.depth - 1, allowsKey := false }
  indicator kind

/-- A comma between brackets. -/
def fetchComma : Lexer Unit := do
  allowKey true
  dropKey
  indicator .flowEntry

/-- The dash before an item. -/
def fetchDash : Lexer Unit := do
  let l ← get
  if l.depth = 0 then
    requirePlaceFor "sequence entries"
    openMargin .blockSequence l.tokens.size l.cursor.mark
  allowKey true
  dropKey
  indicator .blockEntry

/-- The question mark before a key. -/
def fetchQuestionMark : Lexer Unit := do
  let l ← get
  if l.depth = 0 then
    requirePlaceFor "mapping keys"
    openMargin .blockMapping l.tokens.size l.cursor.mark
  allowKey (l.depth = 0)
  dropKey
  indicator .key

/-- A colon after the key that it shows to be one. -/
def fetchColonAfter (key : PossibleKey) : Lexer Unit := do
  modify fun l =>
    { l with keys := l.keys.filter fun k => k.depth != l.depth,
             tokens := l.tokens.insertIdxIfInBounds key.number ⟨.key, key.mark, key.mark⟩ }
  if (← get).depth = 0 then openMargin .blockMapping key.number key.mark
  allowKey false
  indicator .value

/-- A colon. -/
def fetchColon : Lexer Unit := do
  let l ← get
  match l.keys.find? fun key => key.depth == l.depth with
  | some key => fetchColonAfter key
  | none =>
    if l.depth = 0 then
      requirePlaceFor "mapping values"
      openMargin .blockMapping l.tokens.size l.cursor.mark
    allowKey (l.depth = 0)
    dropKey
    indicator .value

/-- A token that may be a key. -/
def fetchName (read : Scanner Token) : Lexer Unit := do
  noteKey
  allowKey false
  emit (← scan read)

/-- A block scalar. -/
def fetchBlockText (folded : Bool) : Lexer Unit := do
  allowKey true
  dropKey
  emit (← scan (Scanner.takeBlockText folded (← get).margin))

/-- A plain scalar. -/
def fetchPlainText : Lexer Unit := do
  noteKey
  allowKey false
  let l ← get
  let (t, broken) ← scan (Scanner.takePlainText (l.depth != 0) l.margin)
  emit t
  if broken then allowKey true

/-- Passes over blanks, remarks and line breaks. Outside of brackets a key may begin on a new line. -/
def skipToToken : Nat → Lexer Unit
  | 0 => return
  | n + 1 => do
    scan (Scanner.skipWhile (· == ' '))
    scan Scanner.skipRemark
    let newline ← scan Scanner.takeBreak
    if !newline.isEmpty then
      if (← get).depth = 0 then allowKey true
      skipToToken n

/-- Whether a plain scalar can begin here. -/
def beginsPlain (s : Cursor) (depth : Nat) : Bool :=
  let c := s.peek
  !(isGap c || "-?:,[]\x7b\x7d#&*!|>'\"%@\x60".toList.contains c) ||
    (!isGap (s.peek 1) && (c == '-' || (depth = 0 && (c == '?' || c == ':'))))

/-- Takes the token that begins with a character. -/
def fetchAt (l : Lexing) (c : Char) : Lexer Unit := do
  let s := l.cursor
  let atStart := s.mark.column = 0
  let alone := isGap (s.peek 1)
  if c == endChar then fetchEnd
  else if c == '%' && atStart then
    fetchBetweenDocuments do emit (← scan Scanner.takeDirective)
  else if c == '-' && atStart && s.atSeparator then fetchBetweenDocuments (indicator .documentStart 3)
  else if c == '.' && atStart && s.atSeparator then fetchBetweenDocuments (indicator .documentEnd 3)
  else if c == '[' then fetchOpening .flowSequence
  else if c == '{' then fetchOpening .flowMapping
  else if c == ']' then fetchClosing .flowSequenceEnd
  else if c == '}' then fetchClosing .flowMappingEnd
  else if c == ',' then fetchComma
  else if c == '-' && alone then fetchDash
  else if c == '?' && (l.depth != 0 || alone) then fetchQuestionMark
  else if c == ':' && (l.depth != 0 || alone) then fetchColon
  else if c == '*' then fetchName Scanner.takeAlias
  else if c == '&' then fetchName Scanner.takeAnchor
  else if c == '!' then fetchName Scanner.takeTag
  else if c == '|' && l.depth = 0 then fetchBlockText false
  else if c == '>' && l.depth = 0 then fetchBlockText true
  else if c == '\'' then fetchName (Scanner.takeQuotedText false)
  else if c == '"' then fetchName (Scanner.takeQuotedText true)
  else if beginsPlain s l.depth then fetchPlainText
  else throw (.marked (some (.scanning "for the next token", s.mark)) (.cannotStart c) s.mark)

/-- Takes the next tokens. -/
def fetch : Lexer Unit := do
  let s := (← get).cursor
  if s.place = 0 && s.peek == '\ufeff' then scan Scanner.skip
  skipToToken (s.rest.length + 1)
  dropStaleKeys
  unwind ((← mark).column + 1)
  let l ← get
  fetchAt l l.cursor.peek
  if !(← get).done then dropStaleKeys

end Lexer

/-- Tokens, and the fault that comes after them. -/
structure TokenStream where
  tokens : List Token
  fault : Option Fault := none
deriving Repr

namespace Lexing

/-- The number of tokens that can be given out: those before the first possible key. -/
def settled (l : Lexing) : Nat := (l.keys.map PossibleKey.number).foldl min l.tokens.size

/-- The tokens of a document. The first argument bounds the number of steps. -/
def run : Nat → Lexing → TokenStream
  | 0, l => ⟨l.tokens.toList, none⟩
  | n + 1, l =>
    if l.done then ⟨l.tokens.toList, none⟩
    else match Lexer.fetch l with
      | .ok (_, l') => run n l'
      | .error fault => ⟨l.tokens.toList.take l.settled, some fault⟩

end Lexing

/-- The tokens of a document. -/
def TokenStream.ofChars (cs : List Char) : TokenStream :=
  Lexing.run (cs.length + 2) { cursor := ⟨cs, 0, {}⟩ }

end CaptureConfig.Yaml
