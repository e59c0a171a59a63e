import CaptureConfig.Yaml.Fault

/-!
# Reading a document character by character

A cursor stands before a character of a document and knows its place, line and column. At the end it
sees the character `U+0000`, which no document holds.
-/

namespace CaptureConfig.Yaml

/-- A cursor in a document. -/
structure Cursor where
  rest : List Char
  place : Nat := 0
  mark : Mark := {}
deriving Repr, Inhabited

/-- The character that stands for the end. -/
def endChar : Char := '\x00'

/-- Line breaks. -/
def isBreak (c : Char) : Bool :=
  c == '\n' || c == '\r' || c == '\x85' || c == '\u2028' || c == '\u2029'

/-- Line breaks and the end. -/
def endsLine (c : Char) : Bool := c == endChar || isBreak c

/-- A blank, a line break or the end. -/
def endsWord (c : Char) : Bool := c == ' ' || endsLine c

/-- A blank, a tab, a line break or the end. -/
def isGap (c : Char) : Bool := c == '\t' || endsWord c

/-- Characters of names. -/
def isNameChar (c : Char) : Bool :=
  ('0' ≤ c && c ≤ '9') || ('A' ≤ c && c ≤ 'Z') || ('a' ≤ c && c ≤ 'z') || c == '-' || c == '_'

namespace Cursor

/-- The character that lies the given number of characters ahead. -/
def peek (s : Cursor) (ahead : Nat := 0) : Char := s.rest.getD ahead endChar

/-- Whether the text ahead begins with the given characters. -/
def startsWith (s : Cursor) (cs : List Char) : Bool := cs.isPrefixOf s.rest

/-- Whether a mark between documents stands here. -/
def atSeparator (s : Cursor) : Bool :=
  (s.startsWith ['-', '-', '-'] || s.startsWith ['.', '.', '.']) && isGap (s.peek 3)

/-- The mark after a character. A carriage return before a line feed does not end a line, and a byte
order mark has no width. -/
def markAfter (m : Mark) (c next : Char) : Mark :=
  if isBreak c && !(c == '\r' && next == '\n') then ⟨m.line + 1, 0⟩
  else if c == '\ufeff' then m
  else ⟨m.line, m.column + 1⟩

/-- The cursor one character ahead. -/
def advance (s : Cursor) : Cursor :=
  match s.rest with
  | [] => s
  | c :: rest => ⟨rest, s.place + 1, markAfter s.mark c (rest.headD endChar)⟩

/-- The cursor the given number of characters ahead. -/
def skip (s : Cursor) : Nat → Cursor
  | 0 => s
  | n + 1 => s.advance.skip n

/-- The number of characters ahead that pass a test. -/
def count (s : Cursor) (p : Char → Bool) : Nat := (s.rest.takeWhile p).length

end Cursor

/-- A step of reading a document. -/
abbrev Scanner := StateT Cursor (Except Fault)

namespace Scanner

/-- The character ahead. -/
def peek (ahead : Nat := 0) : Scanner Char := return (← get).peek ahead

/-- The present mark. -/
def mark : Scanner Mark := return (← get).mark

/-- Goes ahead by the given number of characters. -/
def skip (n : Nat := 1) : Scanner Unit := modify (·.skip n)

/-- Takes the given number of characters. -/
def take (n : Nat) : Scanner (List Char) := do
  let cs := (← get).rest.take n
  skip n
  return cs

/-- Takes the characters that pass a test. -/
def takeWhile (p : Char → Bool) : Scanner (List Char) := do
  take ((← get).count p)

/-- Passes over the characters that pass a test. -/
def skipWhile (p : Char → Bool) : Scanner Unit := do
  let _ ← takeWhile p

/-- Complains about what is found here while something is going on. -/
def complain {α : Type} (activity : Activity) (start : Mark) (problem : Problem) : Scanner α := do
  throw (.marked (some (activity, start)) problem (← mark))

/-- Complains that something else was expected than the character ahead. -/
def expected {α : Type} (activity : Activity) (start : Mark) (wanted : String) (ahead : Nat := 0) :
    Scanner α := do
  complain activity start (.expected wanted (Text.quoted (← peek ahead).toString))

/-- Passes over a remark. -/
def skipRemark : Scanner Unit := do
  if (← peek) == '#' then skipWhile fun c => !endsLine c

/-- Takes a line break, if there is one here, as a line feed or as a separator of its own. -/
def takeBreak : Scanner (List Char) := do
  let s ← get
  let c := s.peek
  if !isBreak c then return []
  else
    skip (if s.startsWith ['\r', '\n'] then 2 else 1)
    return [if c == '\u2028' || c == '\u2029' then c else '\n']

end Scanner

end CaptureConfig.Yaml
