import CaptureConfig.Text.Hex
import CaptureConfig.Yaml.Token.Basic

/-!
# Anchors, aliases and tags
-/

namespace CaptureConfig.Yaml.Scanner

/-- A name after its indicator. -/
def name (kind : String) (start : Mark) : Scanner String := do
  skip
  let activity : Activity := .scanning ("an " ++ kind)
  let wanted := "alphabetic or numeric character"
  let found ← takeWhile isNameChar
  if found.isEmpty then expected activity start wanted
  let c ← peek
  if isGap c || "?:,]\x7d%@\x60".toList.contains c then return String.ofList found
  else expected activity start wanted

/-- An alias. -/
def takeAlias : Scanner Token := token fun start => .alias <$> name "alias" start

/-- An anchor. -/
def takeAnchor : Scanner Token := token fun start => .anchor <$> name "anchor" start

/-- The handle of a tag: an exclamation mark, or a name between two of them. -/
def tagHandle (what : String) (start : Mark) : Scanner String := do
  let activity : Activity := .scanning ("a " ++ what)
  if (← peek) != '!' then expected activity start "'!'"
  let s ← get
  let length := 1 + (s.skip 1).count isNameChar
  if s.peek 1 == ' ' then return String.ofList (← take 1)
  else if s.peek length == '!' then return String.ofList (← take (length + 1))
  else
    skip length
    expected activity start "'!'"

/-- One byte of an escape in a tag, after its percent sign. -/
def escapedByte (what : String) (start : Mark) : Scanner UInt8 := do
  skip
  let s ← get
  match Text.hexValue? (s.peek 0), Text.hexValue? (s.peek 1) with
  | some hi, some lo =>
    skip 2
    return (16 * hi + lo).toUInt8
  | none, _ => complainHex 0
  | _, none => complainHex 1
where
  /-- Complains about a character that is not a digit. -/
  complainHex (ahead : Nat) : Scanner UInt8 :=
    expected (.scanning ("a " ++ what)) start "URI escape sequence of 2 hexadecimal numbers" ahead

/-- The bytes of the escapes that follow one another here. -/
def escapedBytes (what : String) (start : Mark) : Nat → Scanner (List UInt8)
  | 0 => return []
  | n + 1 => do
    if (← peek) == '%' then
      let b ← escapedByte what start
      return b :: (← escapedBytes what start n)
    else return []

/-- The characters that escapes stand for. -/
def escapedChars (what : String) (start : Mark) : Scanner (List Char) := do
  let here ← mark
  let bytes ← escapedBytes what start (← get).rest.length
  match Text.decodeWhole bytes with
  | .ok cs => return cs
  | .error fault =>
    throw (.marked (some (.scanning ("a " ++ what), start)) (.badEscapes fault) here)

/-- Characters of tags. -/
def isTagChar (c : Char) : Bool :=
  isNameChar c || ";/?:@&=+$,_.!~*'()[]".toList.contains c

/-- The characters of a tag, with its escapes resolved. -/
def tagChars (what : String) (start : Mark) : Nat → Scanner (List Char)
  | 0 => return []
  | n + 1 => do
    let plain ← takeWhile isTagChar
    if (← peek) == '%' then
      let special ← escapedChars what start
      return plain ++ special ++ (← tagChars what start n)
    else return plain

/-- The text of a tag after its handle. -/
def tagText (what : String) (start : Mark) : Scanner String := do
  let before := (← get).place
  let cs ← tagChars what start ((← get).rest.length + 1)
  if (← get).place = before then expected (.parsing ("a " ++ what)) start "URI"
  return String.ofList cs

/-- The handle of a short tag, if there is one here, and its text. -/
def shortTag (start : Mark) : Scanner TokenKind := do
  let s ← get
  let word := (s.rest.drop 1).takeWhile fun c => !endsWord c
  let handle ←
    if word.contains '!' then tagHandle "tag" start
    else do
      skip
      pure "!"
  return .tag (some handle) (← tagText "tag" start)

/-- A tag in angle brackets. -/
def verbatimTag (start : Mark) : Scanner TokenKind := do
  skip 2
  let suffix ← tagText "tag" start
  if (← peek) != '>' then expected (.parsing "a tag") start "'>'"
  skip
  return .tag none suffix

/-- A tag. -/
def takeTag : Scanner Token := token fun start => do
  let c ← peek 1
  let kind ←
    if c == '<' then verbatimTag start
    else if isGap c then do
      skip
      pure (.tag none "!")
    else shortTag start
  if endsWord (← peek) then return kind
  else expected (.scanning "a tag") start "' '"

end CaptureConfig.Yaml.Scanner
