import CaptureConfig.Yaml.Cursor

/-!
# Tokens of YAML documents
-/

namespace CaptureConfig.Yaml

/-- The kinds of tokens, with what they carry. -/
inductive TokenKind where
  | streamEnd
  | version (major minor : Nat)
  | handle (handle lead : String)
  | otherDirective
  | documentStart
  | documentEnd
  | blockSequence
  | blockMapping
  | blockEnd
  | flowSequence
  | flowMapping
  | flowSequenceEnd
  | flowMappingEnd
  | blockEntry
  | flowEntry
  | key
  | value
  | alias (name : String)
  | anchor (name : String)
  | tag (handle : Option String) (suffix : String)
  | scalar (plain : Bool) (text : String)
deriving Repr, DecidableEq

/-- The name of a kind of tokens. -/
def TokenKind.name : TokenKind → String
  | .streamEnd => "<stream end>"
  | .version _ _ => "<directive>"
  | .handle _ _ => "<directive>"
  | .otherDirective => "<directive>"
  | .documentStart => "<document start>"
  | .documentEnd => "<document end>"
  | .blockSequence => "<block sequence start>"
  | .blockMapping => "<block mapping start>"
  | .blockEnd => "<block end>"
  | .flowSequence => "["
  | .flowMapping => "\x7b"
  | .flowSequenceEnd => "]"
  | .flowMappingEnd => "\x7d"
  | .blockEntry => "-"
  | .flowEntry => ","
  | .key => "?"
  | .value => ":"
  | .alias _ => "<alias>"
  | .anchor _ => "<anchor>"
  | .tag _ _ => "<tag>"
  | .scalar _ _ => "<scalar>"

/-- A token and where it begins and ends. -/
structure Token where
  kind : TokenKind
  start : Mark
  stop : Mark
deriving Repr, DecidableEq

namespace Scanner

/-- The token that a step of reading takes. -/
def token (read : Mark → Scanner TokenKind) : Scanner Token := do
  let start ← mark
  let kind ← read start
  return ⟨kind, start, ← mark⟩

end Scanner

end CaptureConfig.Yaml
