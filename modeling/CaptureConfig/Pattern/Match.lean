import CaptureConfig.Pattern.Parser
import CaptureConfig.Text.CasePair
import CaptureConfig.Text.Character

/-!
# Matching a whole text

A spot is a place in the text with what the groups have captured so far. `Node.run` tries the ways in
which an expression matches from a spot on, in order of preference, and hands the spot after each of them
to a continuation, until the continuation succeeds.
-/

namespace CaptureConfig.Pattern

/-- A place in the text, and what the groups hold there. -/
structure Spot where
  /-- The characters before the place, the nearest first. -/
  before : List Char
  /-- The characters after the place. -/
  after : List Char
  /-- The number of characters before the place. -/
  place : Nat
  /-- What each group captured, the newest first. -/
  groups : List (Nat × List Char)
deriving Repr, DecidableEq

/-- What happens after an expression has matched. -/
abbrev Continuation := Spot → Option Spot

namespace Spot

/-- The start of a text. -/
def start (text : List Char) : Spot := ⟨[], text, 0, []⟩

/-- Goes over the next character if it passes the test. -/
def step (p : Char → Bool) (s : Spot) (k : Continuation) : Option Spot :=
  match s.after with
  | [] => none
  | c :: rest =>
    if p c then k { s with before := c :: s.before, after := rest, place := s.place + 1 } else none

/-- Goes back over the given number of characters. -/
def back : Nat → Spot → Option Spot
  | 0, s => some s
  | n + 1, s =>
    match s.before with
    | [] => none
    | c :: rest =>
      back n { s with before := rest, after := c :: s.after, place := s.place - 1 }

end Spot

/-- The small letter of an ASCII letter. -/
def asciiSmall (n : Nat) : Nat := if 65 ≤ n && n ≤ 90 then n + 32 else n

/-- The small letter that stands for a character when case is ignored. -/
def Flags.fold (f : Flags) (n : Nat) : Nat :=
  if f.ignoreCase then (if f.ascii then asciiSmall n else Text.small n) else n

/-- Whether a character is the given one, up to case if that is ignored. -/
def Flags.same (f : Flags) (n : Nat) (c : Char) : Bool :=
  let folded := f.fold c.toNat
  f.fold n == folded ||
    (f.ignoreCase && !f.ascii && (Text.siblings (Text.small n)).contains folded)

/-- Whether a code point is in a named class. -/
def Class.contains (ascii : Bool) (n : Nat) : Class → Bool
  | .digit => if ascii then 48 ≤ n && n ≤ 57 else Text.isDigitCode n
  | .space =>
    if ascii then (9 ≤ n && n ≤ 13) || n == 32
    else Text.isBlank (Char.ofNat n)
  | .word =>
    if n < 128 then (48 ≤ n && n ≤ 57) || (65 ≤ n && n ≤ 90) || (97 ≤ n && n ≤ 122) || n == 95
    else !ascii && Text.isWordChar n

/-- Whether a range, of which the letters may be in either case, holds the small letter `n`. Beyond
`U+FFFF` the bounds are compared with the letter and its capital as they are. -/
def rangeHolds (f : Flags) (lo hi n : Nat) : Bool :=
  if f.ignoreCase then
    let within (m : Nat) : Bool := lo ≤ m && m ≤ hi && m ≤ 0xFFFF
    let near :=
      if f.ascii then within n || (97 ≤ n && n ≤ 122 && within (n - 32))
      else within n || (Text.siblings n).any fun m => (Text.withSmall m).any within
    let capital := Text.farCapital n
    near || (0xFFFF < hi && ((lo ≤ n && n ≤ hi) || (lo ≤ capital && capital ≤ hi)))
  else lo ≤ n && n ≤ hi

/-- Whether a member of a set holds the folded character `n`. Beyond `U+FFFF` a single member is
compared as it is written. -/
def Member.holds (f : Flags) (n : Nat) : Member → Bool
  | .code m =>
    if f.ignoreCase && m ≤ 0xFFFF then
      if f.ascii then asciiSmall m == n else (Text.siblings (Text.small m)).contains n
    else m == n
  | .range lo hi => rangeHolds f lo hi n
  | .named cls negated => cls.contains f.ascii n != negated

/-- Whether a set holds a character. -/
def setHolds (f : Flags) (negated : Bool) (members : List Member) (c : Char) : Bool :=
  members.any (·.holds f (f.fold c.toNat)) != negated

/-- Whether an anchor holds at a spot. -/
def Anchor.holds (f : Flags) (s : Spot) : Anchor → Bool
  | .lineStart => s.before.isEmpty || (f.multiline && s.before.head? == some '\n')
  | .lineEnd => s.after.isEmpty || s.after == ['\n'] || (f.multiline && s.after.head? == some '\n')
  | .textStart => s.before.isEmpty
  | .textEnd => s.after.isEmpty
  | .wordEdge => !(s.before.isEmpty && s.after.isEmpty) && word s.before.head? != word s.after.head?
  | .noWordEdge => !(s.before.isEmpty && s.after.isEmpty) && word s.before.head? == word s.after.head?
where
  /-- Whether there is a character and it belongs to a word. -/
  word : Option Char → Bool
    | none => false
    | some c => Class.word.contains f.ascii c.toNat

/-- Goes over a text that was captured before. -/
def recapture (f : Flags) : List Char → Spot → Continuation → Option Spot
  | [], s, k => k s
  | c :: cs, s, k => s.step (fun d => f.fold c.toNat == f.fold d.toNat) (fun t => recapture f cs t k)

/-- A way to match from a spot on. -/
abbrev Matcher := Spot → Continuation → Option Spot

/-- Whether one more round is allowed. A round that starts where the previous one started is not. -/
def mayRepeat (most : Option Nat) (count : Nat) (last : Option Nat) (s : Spot) : Bool :=
  (match most with | none => true | some m => count < m) && last != some s.place

/-- Rounds of `round`, as many as possible first. The first argument bounds the number of rounds; after
the least number of them every round starts further on than the one before. -/
def greedyRounds (round : Matcher) (least : Nat) (most : Option Nat) :
    Nat → Nat → Option Nat → Matcher
  | 0, _, _, _, _ => none
  | n + 1, count, last, s, k =>
    if count < least then round s fun t => greedyRounds round least most n (count + 1) last t k
    else if mayRepeat most count last s then
      match round s fun t => greedyRounds round least most n (count + 1) (some s.place) t k with
      | some t => some t
      | none => k s
    else k s

/-- Rounds of `round`, as few as possible first. -/
def lazyRounds (round : Matcher) (least : Nat) (most : Option Nat) :
    Nat → Nat → Option Nat → Matcher
  | 0, _, _, _, _ => none
  | n + 1, count, last, s, k =>
    if count < least then round s fun t => lazyRounds round least most n (count + 1) last t k
    else
      match k s with
      | some t => some t
      | none =>
        if mayRepeat most count last s then
          round s fun t => lazyRounds round least most n (count + 1) (some s.place) t k
        else none

/-- The spot after as many rounds as possible, each in its preferred way. -/
def possessiveRounds (round : Matcher) (least : Nat) (most : Option Nat) :
    Nat → Nat → Option Nat → Continuation
  | 0, _, _, _ => none
  | n + 1, count, last, s =>
    if count < least then
      match round s some with
      | some t => possessiveRounds round least most n (count + 1) last t
      | none => none
    else if mayRepeat most count last s then
      match round s some with
      | some t => possessiveRounds round least most n (count + 1) (some s.place) t
      | none => some s
    else some s

/-- Rounds of `round` from a spot on. -/
def rounds (round : Matcher) (least : Nat) (most : Option Nat) (greed : Greed) : Matcher := fun s k =>
  let bound := least + s.after.length + 2
  match greed with
  | .greedy => greedyRounds round least most bound 0 none s k
  | .lazy => lazyRounds round least most bound 0 none s k
  | .possessive =>
    match possessiveRounds round least most bound 0 none s with
    | some t => k t
    | none => none

/-- Tries the ways in which an expression matches, in order of preference. -/
def Node.run (f : Flags) : Node → Matcher
  | .empty, s, k => k s
  | .code n, s, k => s.step (f.same n) k
  | .notCode n, s, k => s.step (fun c => !f.same n c) k
  | .any, s, k => s.step (fun c => f.dotAll || c != '\n') k
  | .set negated members, s, k => s.step (setHolds f negated members) k
  | .anchor a, s, k => if a.holds f s then k s else none
  | .cat a b, s, k => a.run f s fun t => b.run f t k
  | .alt a b, s, k =>
    match a.run f s k with
    | some t => some t
    | none => b.run f s k
  | .group none on off body, s, k => body.run (f.inside on off) s k
  | .group (some index) on off body, s, k =>
    body.run (f.inside on off) s fun t =>
      k { t with groups := (index, s.after.take (t.place - s.place)) :: t.groups }
  | .rep least most greed body, s, k => rounds (fun t l => body.run f t l) least most greed s k
  | .atomic body, s, k =>
    match body.run f s some with
    | some t => k t
    | none => none
  | .ahead negated body, s, k =>
    match body.run f s some with
    | some t => if negated then none else k { s with groups := t.groups }
    | none => if negated then k s else none
  | .behind negated width _ body, s, k =>
    match (s.back width).bind fun b => body.run f b some with
    | some t => if negated then none else k { s with groups := t.groups }
    | none => if negated then k s else none
  | .backref index, s, k =>
    match s.groups.lookup index with
    | some captured => recapture f captured s k
    | none => none
  | .cond index yes no, s, k =>
    if (s.groups.lookup index).isSome then yes.run f s k else no.run f s k

end CaptureConfig.Pattern

namespace CaptureConfig.Pattern

/-- Whether a regular expression matches the whole of a text when case is ignored. -/
def matchesAll (p : Pattern) (text : String) : Bool :=
  (p.body.run { p.flags with ignoreCase := true } (.start text.toList) fun s =>
    if s.after.isEmpty then some s else none).isSome

end CaptureConfig.Pattern
