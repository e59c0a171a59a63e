import CaptureConfig.Pattern.Refusal
import CaptureConfig.Text.CharName
import CaptureConfig.Text.Character
import CaptureConfig.Text.Identifier

/-!
# Reading a regular expression, token by token

A token is one character, or a backslash with the character after it. The reader stands at a token and
knows its place. It refuses a backslash at the very end as soon as it gets there.
-/

namespace CaptureConfig.Pattern

/-- One token of a regular expression. -/
inductive Token where
  | plain (c : Char)
  | escaped (c : Char)
deriving Repr, DecidableEq

namespace Token

/-- The characters of a token. -/
def chars : Token → List Char
  | .plain c => [c]
  | .escaped c => ['\\', c]

/-- The text of a token. -/
def text (t : Token) : String := String.ofList t.chars

/-- The number of characters of a token. -/
def length (t : Token) : Nat := t.chars.length

end Token

/-- What is known while a regular expression is read. -/
structure Reading where
  /-- The characters not yet read. -/
  rest : List Char
  /-- The place of the first of them. -/
  place : Nat := 0
  /-- The switches turned on for the whole expression. -/
  flags : Flags := {}
  /-- The names of groups, the newest first. -/
  names : List (String × Nat) := []
  /-- The width of each group from group one on; none while the group is open. -/
  widths : Array (Option (Nat × Nat)) := #[]
  /-- Inside a look-behind, the number that the first group opened in it has. -/
  lookbehindFrom : Option Nat := none
  /-- Groups that conditions refer to by number, and where. -/
  conditions : List (Nat × Nat) := []

/-- A step of reading. -/
abbrev Reader := StateT Reading (Except Refusal)

namespace Reading

/-- The token at which the reader stands. -/
def token? (r : Reading) : Option Token :=
  match r.rest with
  | [] => none
  | '\\' :: c :: _ => some (.escaped c)
  | c :: _ => some (.plain c)

/-- The number of groups, the whole expression included. -/
def groupCount (r : Reading) : Nat := r.widths.size + 1

/-- The width of a group that is closed. -/
def width? (r : Reading) (index : Nat) : Option (Nat × Nat) :=
  if index = 0 then none else (r.widths[index - 1]?).join

/-- The width of a group, nothing for one that is not closed. -/
def width (r : Reading) (index : Nat) : Nat × Nat :=
  (r.width? index).getD (0, 0)

end Reading

namespace Reader

/-- The refusal at a place that lies `back` characters before the reader. -/
def complain {α : Type} (complaint : Complaint) (back : Nat := 0) : Reader α := do
  throw (.syntactic complaint (some ((← get).place - back)))

/-- The token at which the reader stands. -/
def peek : Reader (Option Token) := return (← get).token?

/-- Goes over the characters of one token. -/
def skip (t : Token) : Reader Unit := do
  let r ← get
  let rest := r.rest.drop t.length
  let place := r.place + t.length
  if rest = ['\\'] then throw (.syntactic .escapeAtEnd (some place))
  set { r with rest, place }

/-- Takes one token. -/
def take : Reader (Option Token) := do
  match ← peek with
  | none => return none
  | some t => skip t; return some t

/-- Takes the given character if the reader stands at it. -/
def takeIf (c : Char) : Reader Bool := do
  if (← peek) = some (.plain c) then
    skip (.plain c)
    return true
  else return false

/-- Takes at most `n` characters of a class. -/
def takeWhile (p : Char → Bool) : Nat → Reader (List Char)
  | 0 => return []
  | n + 1 => do
    match ← peek with
    | some (.plain c) =>
      if p c then
        skip (.plain c)
        return c :: (← takeWhile p n)
      else return []
    | _ => return []

/-- Takes the tokens before a terminator, and the terminator. The first argument bounds their number. -/
def takeUntil (terminator : Char) (what : String) : Nat → List Char → Reader (List Char)
  | 0, found => return found
  | n + 1, found => do
    match ← take with
    | none =>
      if found.isEmpty then complain (.missingName what)
      else complain (.unterminatedName terminator) found.length
    | some t =>
      if t = .plain terminator then
        if found.isEmpty then complain (.missingName what) 1
        else return found
      else takeUntil terminator what n (found ++ t.chars)

/-- A name up to its terminator. -/
def takeName (terminator : Char) (what : String) : Reader String := do
  return String.ofList (← takeUntil terminator what ((← get).rest.length + 1) [])

end Reader

/-- A character that an escape stands for, or a class or an anchor. -/
inductive Escape where
  | code (n : Nat)
  | named (cls : Class) (negated : Bool)
  | anchor (a : Anchor)
  | backref (index : Nat)

/-- The escapes of single control characters. -/
def controlEscape? : Char → Option Nat
  | 'a' => some 7
  | 'b' => some 8
  | 'f' => some 12
  | 'n' => some 10
  | 'r' => some 13
  | 't' => some 9
  | 'v' => some 11
  | '\\' => some 92
  | _ => none

/-- The escapes of classes. -/
def classEscape? : Char → Option (Class × Bool)
  | 'd' => some (.digit, false)
  | 'D' => some (.digit, true)
  | 's' => some (.space, false)
  | 'S' => some (.space, true)
  | 'w' => some (.word, false)
  | 'W' => some (.word, true)
  | _ => none

/-- The escapes of anchors. -/
def anchorEscape? : Char → Option Anchor
  | 'A' => some .textStart
  | 'b' => some .wordEdge
  | 'B' => some .noWordEdge
  | 'Z' => some .textEnd
  | _ => none

/-- ASCII letters. -/
def isAsciiLetter (c : Char) : Bool := ('a' ≤ c && c ≤ 'z') || ('A' ≤ c && c ≤ 'Z')

/-- ASCII digits. -/
def isAsciiDigit (c : Char) : Bool := '0' ≤ c && c ≤ '9'

/-- Digits in base eight. -/
def isOctalDigit (c : Char) : Bool := '0' ≤ c && c ≤ '7'

/-- The number that ASCII digits denote in a base. -/
def digitsToNat (base : Nat) (cs : List Char) : Nat :=
  Text.ofDigits base (cs.filterMap Text.hexValue?)

namespace Reader

/-- An escape by its number in base sixteen, with exactly `count` digits. -/
def hexEscape (c : Char) (count : Nat) : Reader Nat := do
  let digits ← takeWhile (fun d => (Text.hexValue? d).isSome) count
  let text := String.ofList ('\\' :: c :: digits)
  if digits.length < count then complain (.incompleteEscape text) text.length
  let n := digitsToNat 16 digits
  if n > 0x10FFFF then complain (.badEscape text) text.length
  return n

/-- An escape by the name of a character. -/
def namedEscape : Reader Nat := do
  unless ← takeIf '\x7b' do complain .missingBrace
  let name ← takeName '\x7d' "character name"
  match Text.characterNamed? name with
  | some n => return n
  | none => complain (.undefinedCharacter name) (name.length + 4)

/-- The escapes that mean the same inside and outside a set: `some` number, if it is one of them. -/
def numericEscape? (c : Char) : Reader (Option Nat) := do
  match c with
  | 'x' => return some (← hexEscape c 2)
  | 'u' => return some (← hexEscape c 4)
  | 'U' => return some (← hexEscape c 8)
  | 'N' => return some (← namedEscape)
  | _ => return none

/-- An escaped character that has no other meaning: itself, unless it is a letter or a digit. -/
def literalEscape (c : Char) : Reader Nat := do
  if isAsciiLetter c || isAsciiDigit c then complain (.badEscape (String.ofList ['\\', c])) 2
  return c.toNat

/-- The meaning of an escape inside a set. -/
def setEscape (c : Char) : Reader Escape := do
  if let some n := controlEscape? c then return .code n
  if let some (cls, negated) := classEscape? c then return .named cls negated
  if let some n ← numericEscape? c then return .code n
  if isOctalDigit c then
    let digits := c :: (← takeWhile isOctalDigit 2)
    let n := digitsToNat 8 digits
    let text := String.ofList ('\\' :: digits)
    if n > 0o377 then complain (.octalOutOfRange text) text.length
    return .code n
  return .code (← literalEscape c)

/-- Refuses, inside a look-behind, a group that is open or was opened in the same look-behind. -/
def checkLookbehind (index : Nat) : Reader Unit := do
  let r ← get
  if let some start := r.lookbehindFrom then
    if (r.width? index).isNone then complain .openGroup
    if start ≤ index then complain .groupOfSameLookbehind

/-- A reference to a group by its number, of which the digits are given. -/
def numberedReference (digits : List Char) : Reader Escape := do
  let index := digitsToNat 10 digits
  let r ← get
  if index < r.groupCount then
    if (r.width? index).isNone then complain .openGroup (digits.length + 1)
    checkLookbehind index
    return .backref index
  complain (.invalidReference index) digits.length

/-- The meaning of an escape outside a set. -/
def plainEscape (c : Char) : Reader Escape := do
  if let some a := anchorEscape? c then return .anchor a
  if let some (cls, negated) := classEscape? c then return .named cls negated
  if let some n := controlEscape? c then return .code n
  if let some n ← numericEscape? c then return .code n
  if c = '0' then
    return .code (digitsToNat 8 (← takeWhile isOctalDigit 2))
  if isAsciiDigit c then
    match ← peek with
    | some (.plain d) =>
      if isAsciiDigit d then
        skip (.plain d)
        match ← peek with
        | some (.plain e) =>
          if isOctalDigit c && isOctalDigit d && isOctalDigit e then
            skip (.plain e)
            let n := digitsToNat 8 [c, d, e]
            let text := String.ofList ['\\', c, d, e]
            if n > 0o377 then complain (.octalOutOfRange text) text.length
            return .code n
          numberedReference [c, d]
        | _ => numberedReference [c, d]
      else numberedReference [c]
    | _ => numberedReference [c]
  else return .code (← literalEscape c)

/-- The switch that a letter names. -/
def flag? : Char → Option Flags
  | 'i' => some { ignoreCase := true }
  | 'm' => some { multiline := true }
  | 's' => some { dotAll := true }
  | 'x' => some { verbose := true }
  | 'a' => some { ascii := true }
  | 't' => some { template := true }
  | 'u' => some { unicode := true }
  | _ => none

/-- Whether a token is a letter that names a switch, the refused one included. -/
def isFlagToken (t : Token) : Bool :=
  match t with
  | .plain c => c == 'L' || (flag? c).isSome
  | .escaped _ => false

/-- The switches turned on, from the letter `c` on, and the token that ends them. -/
def flagsOn : Nat → Flags → Char → Reader (Flags × Char)
  | 0, on, c => return (on, c)
  | n + 1, on, c => do
    let some f := flag? c | complain .localeFlag
    let on := on.union f
    if f.choosesClasses && on.ascii && on.unicode then complain .exclusiveFlags
    match ← take with
    | none => complain .missingFlagsEnd
    | some (.plain d) =>
      if d = ')' || d = '-' || d = ':' then return (on, d)
      if isFlagToken (.plain d) then flagsOn n on d
      else complain (if Text.isLetter d.toNat then .unknownFlag else .missingFlagsEnd) 1
    | some t => complain .missingFlagsEnd t.length

/-- The switches turned off, from the letter `c` on. -/
def flagsOff : Nat → Flags → Char → Reader Flags
  | 0, off, _ => return off
  | n + 1, off, c => do
    let some f := flag? c | complain .classFlagOff
    if f.choosesClasses then complain .classFlagOff
    let off := off.union f
    match ← take with
    | none => complain .missingColon
    | some (.plain d) =>
      if d = ':' then return off
      if isFlagToken (.plain d) then flagsOff n off d
      else complain (if Text.isLetter d.toNat then .unknownFlag else .missingColon) 1
    | some t => complain .missingColon t.length

/-- The switches of a group that begins with `(?` and the character `c`: none when they hold for the
whole expression, otherwise those turned on and those turned off. -/
def groupFlags (c : Char) : Reader (Option (Flags × Flags)) := do
  let bound := (← get).rest.length + 1
  let (on, stop) ← if c = '-' then pure ({}, c) else flagsOn bound {} c
  if stop = ')' then
    modify fun r => { r with flags := r.flags.union on }
    return none
  if on.template then complain .globalFlagOn 1
  let off ←
    if stop = '-' then
      match ← take with
      | none => complain .missingFlag
      | some (.plain d) =>
        if isFlagToken (.plain d) then flagsOff bound {} d
        else complain (if Text.isLetter d.toNat then .unknownFlag else .missingFlag) 1
      | some t => complain .missingFlag t.length
    else pure {}
  if off.template then complain .globalFlagOff 1
  if on.meets off then complain .flagOnAndOff 1
  return some (on, off)

end Reader

end CaptureConfig.Pattern
