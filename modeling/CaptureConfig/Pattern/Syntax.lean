/-!
# The syntax tree of a regular expression

Characters are kept as code points, because an escape may name a code point that no text holds.
-/

namespace CaptureConfig.Pattern

/-- The switches of a regular expression. -/
structure Flags where
  ignoreCase : Bool := false
  multiline : Bool := false
  dotAll : Bool := false
  verbose : Bool := false
  ascii : Bool := false
  unicode : Bool := false
  template : Bool := false
deriving Repr, DecidableEq, Inhabited

namespace Flags

/-- The switches that are on in either. -/
def union (f g : Flags) : Flags where
  ignoreCase := f.ignoreCase || g.ignoreCase
  multiline := f.multiline || g.multiline
  dotAll := f.dotAll || g.dotAll
  verbose := f.verbose || g.verbose
  ascii := f.ascii || g.ascii
  unicode := f.unicode || g.unicode
  template := f.template || g.template

/-- The switches of the first that are off in the second. -/
def without (f g : Flags) : Flags where
  ignoreCase := f.ignoreCase && !g.ignoreCase
  multiline := f.multiline && !g.multiline
  dotAll := f.dotAll && !g.dotAll
  verbose := f.verbose && !g.verbose
  ascii := f.ascii && !g.ascii
  unicode := f.unicode && !g.unicode
  template := f.template && !g.template

/-- Whether a switch that chooses the character classes is on. -/
def choosesClasses (f : Flags) : Bool := f.ascii || f.unicode

/-- Whether the two have a switch in common. -/
def meets (f g : Flags) : Bool := f.without (f.without g) != {}

/-- The switches inside a group that turns some on and some off. -/
def inside (f on off : Flags) : Flags :=
  let base := if on.choosesClasses then { f with ascii := false, unicode := false } else f
  (base.union on).without off

end Flags

/-- The named classes of characters. -/
inductive Class where
  | digit
  | space
  | word
deriving Repr, DecidableEq, Inhabited

/-- A member of a character set. -/
inductive Member where
  | code (n : Nat)
  | range (lo hi : Nat)
  | named (cls : Class) (negated : Bool)
deriving Repr, DecidableEq, Inhabited

/-- Conditions on a place in the text. -/
inductive Anchor where
  | lineStart
  | lineEnd
  | textStart
  | textEnd
  | wordEdge
  | noWordEdge
deriving Repr, DecidableEq, Inhabited

/-- How a repetition chooses its number of rounds. -/
inductive Greed where
  | greedy
  | lazy
  | possessive
deriving Repr, DecidableEq, Inhabited

/-- A regular expression. -/
inductive Node where
  | empty
  | code (n : Nat)
  | notCode (n : Nat)
  | any
  | set (negated : Bool) (members : List Member)
  | anchor (a : Anchor)
  | cat (first second : Node)
  | alt (left right : Node)
  | group (index : Option Nat) (on off : Flags) (body : Node)
  | rep (least : Nat) (most : Option Nat) (greed : Greed) (body : Node)
  | atomic (body : Node)
  | ahead (negated : Bool) (body : Node)
  | behind (negated : Bool) (shortest longest : Nat) (body : Node)
  | backref (index : Nat)
  | cond (index : Nat) (yes no : Node)
deriving Repr, Inhabited

namespace Node

/-- A sequence of expressions. -/
def ofItems : List Node → Node
  | [] => .empty
  | [n] => n
  | n :: ns => .cat n (ofItems ns)

/-- The expressions of a sequence. -/
def items : Node → List Node
  | .empty => []
  | .cat a b => a :: b.items
  | n => [n]

end Node

/-- A bound above every width that a text can have. -/
def unboundedWidth : Nat := Nat.pow 2 64

/-- The least and the greatest number of characters that an expression takes, given those of the groups
it refers to. -/
def Node.width (groups : Nat → Nat × Nat) : Node → Nat × Nat
  | .empty => (0, 0)
  | .code _ => (1, 1)
  | .notCode _ => (1, 1)
  | .any => (1, 1)
  | .set _ _ => (1, 1)
  | .anchor _ => (0, 0)
  | .cat a b =>
    let (i, j) := a.width groups
    let (k, l) := b.width groups
    (i + k, j + l)
  | .alt a b =>
    let (i, j) := a.width groups
    let (k, l) := b.width groups
    (min i k, max j l)
  | .group _ _ _ body => body.width groups
  | .rep least most _ body =>
    let (i, j) := body.width groups
    match most with
    | some m => (i * least, j * m)
    | none => (i * least, if j = 0 then 0 else unboundedWidth)
  | .atomic body => body.width groups
  | .ahead _ _ => (0, 0)
  | .behind _ _ _ _ => (0, 0)
  | .backref index => groups index
  | .cond _ yes no =>
    let (i, j) := yes.width groups
    let (k, l) := no.width groups
    (min i k, max j l)

end CaptureConfig.Pattern
