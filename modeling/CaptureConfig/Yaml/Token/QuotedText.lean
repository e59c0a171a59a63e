import CaptureConfig.Text.Hex
import CaptureConfig.Yaml.Token.Basic

/-!
# Quoted scalars

Between single quotes a quote is written twice; between double quotes there are escapes. A line break
is folded to a blank, and the blanks around it are left out.
-/

namespace CaptureConfig.Yaml.Scanner

/-- What is going on in a quoted scalar. -/
def inQuotedText : Activity := .scanning "a quoted scalar"

/-- What is going on in an escape. -/
def inEscape : Activity := .scanning "a double-quoted scalar"

/-- The character that an escape of one letter stands for. -/
def escaped? : Char → Option Char
  | '0' => some '\x00'
  | 'a' => some '\x07'
  | 'b' => some '\x08'
  | 't' => some '\t'
  | '\t' => some '\t'
  | 'n' => some '\n'
  | 'v' => some '\x0b'
  | 'f' => some '\x0c'
  | 'r' => some '\r'
  | 'e' => some '\x1b'
  | ' ' => some ' '
  | '"' => some '"'
  | '\\' => some '\\'
  | '/' => some '/'
  | 'N' => some '\x85'
  | '_' => some '\xa0'
  | 'L' => some '\u2028'
  | 'P' => some '\u2029'
  | _ => none

/-- The number of digits of an escape by number. -/
def escapeDigits? : Char → Option Nat
  | 'x' => some 2
  | 'u' => some 4
  | 'U' => some 8
  | _ => none

/-- The character that an escape of the given number of digits stands for. A text holds characters only, so the
escape of a surrogate, which is none, cannot be kept and gives the replacement character. -/
def numberedEscape (start : Mark) (length : Nat) : Scanner Char := do
  let s ← get
  let ahead := (List.range length).map fun i => s.peek i
  match ahead.findIdx? fun c => (Text.hexValue? c).isNone with
  | some i =>
    expected inEscape start
      ("escape sequence of " ++ Text.showNat length ++ " hexadecimal numbers") i
  | none =>
    let code := Text.ofDigits 16 (ahead.filterMap Text.hexValue?)
    if 0x10ffff < code then throw (.codePoint code)
    skip length
    return if code.isValidChar then Char.ofNat code else '\ufffd'

/-- The line breaks here, with the blanks around them left out. -/
def quotedBreaks (start : Mark) : Nat → Scanner (List Char)
  | 0 => return []
  | n + 1 => do
    if (← get).atSeparator then complain inQuotedText start .documentSeparator
    skipWhile fun c => c == ' ' || c == '\t'
    if isBreak (← peek) then
      let b ← takeBreak
      return b ++ (← quotedBreaks start n)
    else return []

/-- An escape after its backslash. -/
def escape (start : Mark) : Scanner (List Char) := do
  let c ← peek
  match escaped? c, escapeDigits? c with
  | some e, _ =>
    skip
    return [e]
  | none, some length =>
    skip
    return [← numberedEscape start length]
  | none, none =>
    if isBreak c then
      let _ ← takeBreak
      quotedBreaks start (← get).rest.length
    else complain inEscape start (.unknownEscape c)

/-- The characters up to a blank, a line break or the closing quote. -/
def quotedWord (double : Bool) (start : Mark) : Nat → Scanner (List Char)
  | 0 => return []
  | n + 1 => do
    let plain ← takeWhile fun c => !(c == '\'' || c == '"' || c == '\\' || isGap c)
    let c ← peek
    if !double && c == '\'' && (← peek 1) == '\'' then
      skip 2
      return plain ++ '\'' :: (← quotedWord double start n)
    else if (double && c == '\'') || (!double && (c == '"' || c == '\\')) then
      skip
      return plain ++ c :: (← quotedWord double start n)
    else if double && c == '\\' then
      skip
      let cs ← escape start
      return plain ++ cs ++ (← quotedWord double start n)
    else return plain

/-- The blanks and line breaks here. -/
def quotedSpaces (start : Mark) : Scanner (List Char) := do
  let blanks ← takeWhile fun c => c == ' ' || c == '\t'
  let c ← peek
  if c == endChar then complain inQuotedText start .endOfStream
  else if isBreak c then
    let newline ← takeBreak
    let breaks ← quotedBreaks start (← get).rest.length
    if newline != ['\n'] then return newline ++ breaks
    else if breaks.isEmpty then return [' ']
    else return breaks
  else return blanks

/-- The characters up to the closing quote. -/
def quotedChars (double : Bool) (start : Mark) : Nat → Scanner (List Char)
  | 0 => return []
  | n + 1 => do
    let word ← quotedWord double start ((← get).rest.length + 1)
    if (← peek) == (if double then '"' else '\'') then return word
    else
      let spaces ← quotedSpaces start
      return word ++ spaces ++ (← quotedChars double start n)

/-- A quoted scalar. -/
def takeQuotedText (double : Bool) : Scanner Token := token fun start => do
  skip
  let text ← quotedChars double start ((← get).rest.length + 1)
  skip
  return .scalar false (String.ofList text)

end CaptureConfig.Yaml.Scanner
