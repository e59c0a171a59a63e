import CaptureConfig.Yaml.Token.Directive

/-!
# Block scalars

A block scalar is a text of indented lines. Its header tells whether lines are folded, what becomes of
the line breaks at its end, and how deep it is indented; without such a number the depth is that of its
deepest leading blank line or first line.
-/

namespace CaptureConfig.Yaml.Scanner

/-- What becomes of the line breaks at the end of a block scalar. -/
inductive Chomping where
  | clip
  | keep
  | strip
deriving Repr, DecidableEq

/-- What is going on in a block scalar. -/
def inBlockText : Activity := .scanning "a block scalar"

/-- The chomping indicator, if there is one here. -/
def chomping? : Scanner (Option Chomping) := do
  let c ← peek
  if c == '+' || c == '-' then
    skip
    return some (if c == '+' then .keep else .strip)
  else return none

/-- The indentation indicator, if there is one here. -/
def indentation? (start : Mark) : Scanner (Option Nat) := do
  let c ← peek
  if c == '0' then
    complain inBlockText start (.expected "indentation indicator in the range 1-9" "0")
  else if '1' ≤ c && c ≤ '9' then
    skip
    return some (c.toNat - 48)
  else return none

/-- The indicators of a block scalar, in either order. -/
def indicators (start : Mark) : Scanner (Chomping × Option Nat) := do
  let first ← chomping?
  let depth ← indentation? start
  let second ← if first.isNone && depth.isSome then chomping? else pure none
  if endsWord (← peek) then return ((first.or second).getD .clip, depth)
  else expected inBlockText start "chomping or indentation indicators"

/-- The blank lines at the beginning, and the greatest column that is reached on the way. -/
def leadingBreaks : Nat → Nat → Scanner (List Char × Nat)
  | 0, deepest => return ([], deepest)
  | n + 1, deepest => do
    skipWhile (· == ' ')
    let deepest := max deepest (← mark).column
    if isBreak (← peek) then
      let b ← takeBreak
      let (bs, deepest) ← leadingBreaks n deepest
      return (b ++ bs, deepest)
    else return ([], deepest)

/-- Passes over blanks up to a column. -/
def skipIndent (depth : Nat) : Scanner Unit := do
  let s ← get
  skip (min (depth - s.mark.column) (s.count (· == ' ')))

/-- The blank lines here, after each of which the indentation is passed over. -/
def breaksAt (depth : Nat) : Nat → Scanner (List Char)
  | 0 => return []
  | n + 1 => do
    if isBreak (← peek) then
      let b ← takeBreak
      skipIndent depth
      return b ++ (← breaksAt depth n)
    else return []

/-- The blank lines from the start of a line on. -/
def blankLines (depth : Nat) : Scanner (List Char) := do
  skipIndent depth
  breaksAt depth (← get).rest.length

/-- The lines of a block scalar, after the given blank lines: the text, the line break at its end, and
the blank lines after that. -/
def blockLines (folded : Bool) (depth : Nat) :
    Nat → List Char → Scanner (List Char × List Char × List Char)
  | 0, blank => return ([], [], blank)
  | n + 1, blank => do
    let s ← get
    if s.mark.column ≠ depth || s.peek == endChar then return ([], [], blank)
    else
      let indented := s.peek == ' ' || s.peek == '\t'
      let line ← takeWhile fun c => !endsLine c
      let newline ← takeBreak
      let blank' ← blankLines depth
      let s' ← get
      if s'.mark.column = depth && s'.peek != endChar then
        let folds := folded && newline == ['\n'] && !indented && s'.peek != ' ' && s'.peek != '\t'
        let join := if folds then (if blank'.isEmpty then [' '] else []) else newline
        let (text, last, after) ← blockLines folded depth n blank'
        return (blank ++ line ++ join ++ text, last, after)
      else return (blank ++ line, newline, blank')

/-- A block scalar inside a collection with the given margin, which is one more than the column of the
collection and nought outside of any. -/
def takeBlockText (folded : Bool) (margin : Nat) : Scanner Token := token fun start => do
  skip
  let (chomping, given) ← indicators start
  finishLine inBlockText start
  let least := max margin 1
  let bound := (← get).rest.length + 1
  let (blank, depth) ← match given with
    | some n => do
      let depth := least + n - 1
      pure (← blankLines depth, depth)
    | none => do
      let (blank, deepest) ← leadingBreaks bound 0
      pure (blank, max least deepest)
  let (text, last, after) ← blockLines folded depth bound blank
  let ending := match chomping with
    | .strip => []
    | .clip => last
    | .keep => last ++ after
  return .scalar false (String.ofList (text ++ ending))

end CaptureConfig.Yaml.Scanner
