import CaptureConfig.Yaml.Token.Basic

/-!
# Plain scalars

A plain scalar is a text without quotes. It goes on over lines that are indented deeper than the
collection that it is in, and ends before a colon or a remark that stands by itself.
-/

namespace CaptureConfig.Yaml.Scanner

/-- Whether a character is an indicator inside a collection in brackets. -/
def isFlowIndicator (c : Char) : Bool := ",[]\x7b\x7d".toList.contains c

/-- Whether a plain scalar ends before a character, given the one after it. -/
def endsPlain (flow : Bool) (c next : Char) : Bool :=
  isGap c || (c == ':' && (isGap next || (flow && isFlowIndicator next))) ||
    (flow && (c == '?' || isFlowIndicator c))

/-- The number of characters before the end of a plain scalar on this line. -/
def plainLength (flow : Bool) : List Char → Nat
  | [] => 0
  | c :: cs => if endsPlain flow c (cs.headD endChar) then 0 else plainLength flow cs + 1

/-- What stands between two words of a plain scalar: the characters that it stands for, and whether it
holds a line break. -/
structure PlainGap where
  chars : List Char
  broken : Bool

/-- The line breaks here, with the blanks between them left out; none at a mark between documents. -/
def plainBreaks? : Nat → Scanner (Option (List Char))
  | 0 => return some []
  | n + 1 => do
    if (← get).atSeparator then return none
    skipWhile (· == ' ')
    if isBreak (← peek) then
      let b ← takeBreak
      return (← plainBreaks? n).map (b ++ ·)
    else return some []

/-- The gap after a word; it has no characters where the scalar ends. -/
def plainGap : Scanner PlainGap := do
  let blanks ← takeWhile (· == ' ')
  if isBreak (← peek) then
    let newline ← takeBreak
    let breaks ← plainBreaks? ((← get).rest.length + 1)
    let chars := match breaks with
      | none => []
      | some breaks =>
        if newline != ['\n'] then newline ++ breaks else if breaks.isEmpty then [' '] else breaks
    return ⟨chars, true⟩
  else return ⟨blanks, false⟩

/-- The words of a plain scalar from the given gap on: its text, where it ends, and whether the last gap
holds a line break. -/
def plainWords (flow : Bool) (margin : Nat) :
    Nat → PlainGap → Mark → Scanner (List Char × Mark × Bool)
  | 0, gap, stop => return ([], stop, gap.broken)
  | n + 1, gap, stop => do
    let s ← get
    let length := if s.peek == '#' then 0 else plainLength flow s.rest
    if length = 0 then return ([], stop, gap.broken)
    else
      let word ← take length
      let stop ← mark
      let gap' ← plainGap
      let s' ← get
      if gap'.chars.isEmpty || s'.peek == '#' || (!flow && s'.mark.column < margin) then
        return (gap.chars ++ word, stop, gap'.broken)
      else
        let (text, stop, broken) ← plainWords flow margin n gap' stop
        return (gap.chars ++ word ++ text, stop, broken)

/-- A plain scalar, and whether a line break follows it. -/
def takePlainText (flow : Bool) (margin : Nat) : Scanner (Token × Bool) := do
  let start ← mark
  let (text, stop, broken) ← plainWords flow margin ((← get).rest.length + 1) ⟨[], false⟩ start
  return (⟨.scalar true (String.ofList text), start, stop⟩, broken)

end CaptureConfig.Yaml.Scanner
