import CaptureConfig.Pattern.Syntax
import CaptureConfig.Text.Integer
import CaptureConfig.Text.Quoted

/-!
# Why a regular expression is refused

A complaint is the cause; a refusal adds the place where it arose. Refusals that are not about the syntax
come from numbers that are too large and from switches that exclude each other.
-/

namespace CaptureConfig.Pattern

/-- What is wrong with the syntax of a regular expression. -/
inductive Complaint where
  | escapeAtEnd
  | badEscape (text : String)
  | incompleteEscape (text : String)
  | octalOutOfRange (text : String)
  | missingBrace
  | missingName (what : String)
  | unterminatedName (terminator : Char)
  | undefinedCharacter (name : String)
  | unterminatedSet
  | badRange (lo hi : String)
  | leastAboveMost
  | nothingToRepeat
  | multipleRepeat
  | unexpectedEnd
  | unknownExtension (text : String)
  | badGroupName (name : String)
  | unknownGroupName (name : String)
  | redefinedGroup (name : String) (index previous : Nat)
  | openGroup
  | groupOfSameLookbehind
  | invalidReference (index : Nat)
  | badGroupNumber
  | manyBranches
  | unterminatedComment
  | unterminatedGroup
  | unbalanced
  | lateFlags
  | localeFlag
  | exclusiveFlags
  | missingFlagsEnd
  | unknownFlag
  | missingFlag
  | missingColon
  | globalFlagOn
  | globalFlagOff
  | classFlagOff
  | flagOnAndOff
  | unevenLookbehind
  | farLookbehind
  | templateRepeat (greed : Greed)
deriving Repr, DecidableEq

/-- The wording of a complaint. -/
def Complaint.message : Complaint → String
  | .escapeAtEnd => "bad escape (end of pattern)"
  | .badEscape text => "bad escape " ++ text
  | .incompleteEscape text => "incomplete escape " ++ text
  | .octalOutOfRange text => "octal escape value " ++ text ++ " outside of range 0-0o377"
  | .missingBrace => "missing \x7b"
  | .missingName what => "missing " ++ what
  | .unterminatedName t => "missing " ++ t.toString ++ ", unterminated name"
  | .undefinedCharacter name => "undefined character name " ++ Text.quoted name
  | .unterminatedSet => "unterminated character set"
  | .badRange lo hi => "bad character range " ++ lo ++ "-" ++ hi
  | .leastAboveMost => "min repeat greater than max repeat"
  | .nothingToRepeat => "nothing to repeat"
  | .multipleRepeat => "multiple repeat"
  | .unexpectedEnd => "unexpected end of pattern"
  | .unknownExtension text => "unknown extension ?" ++ text
  | .badGroupName name => "bad character in group name " ++ Text.quoted name
  | .unknownGroupName name => "unknown group name " ++ Text.quoted name
  | .redefinedGroup name index previous =>
    "redefinition of group name " ++ Text.quoted name ++ " as group " ++ Text.showNat index ++
      "; was group " ++ Text.showNat previous
  | .openGroup => "cannot refer to an open group"
  | .groupOfSameLookbehind => "cannot refer to group defined in the same lookbehind subpattern"
  | .invalidReference index => "invalid group reference " ++ Text.showNat index
  | .badGroupNumber => "bad group number"
  | .manyBranches => "conditional backref with more than two branches"
  | .unterminatedComment => "missing ), unterminated comment"
  | .unterminatedGroup => "missing ), unterminated subpattern"
  | .unbalanced => "unbalanced parenthesis"
  | .lateFlags => "global flags not at the start of the expression"
  | .localeFlag => "bad inline flags: cannot use 'L' flag with a str pattern"
  | .exclusiveFlags => "bad inline flags: flags 'a', 'u' and 'L' are incompatible"
  | .missingFlagsEnd => "missing -, : or )"
  | .unknownFlag => "unknown flag"
  | .missingFlag => "missing flag"
  | .missingColon => "missing :"
  | .globalFlagOn => "bad inline flags: cannot turn on global flag"
  | .globalFlagOff => "bad inline flags: cannot turn off global flag"
  | .classFlagOff => "bad inline flags: cannot turn off flags 'a', 'u' and 'L'"
  | .flagOnAndOff => "bad inline flags: flag turned on and off"
  | .unevenLookbehind => "look-behind requires fixed-width pattern"
  | .farLookbehind => "looks too much behind"
  | .templateRepeat .greedy => "internal: unsupported template operator MAX_REPEAT"
  | .templateRepeat .lazy => "internal: unsupported template operator MIN_REPEAT"
  | .templateRepeat .possessive => "internal: unsupported template operator POSSESSIVE_REPEAT"

/-- Why a regular expression is refused. -/
inductive Refusal where
  /-- The syntax is wrong, at a place of the expression where there is one to name. -/
  | syntactic (complaint : Complaint) (place : Option Nat)
  /-- A number of rounds is too large. -/
  | repeatTooLarge
  /-- A number of rounds has too many digits. -/
  | tooManyDigits (count : Nat)
  /-- Two switches exclude each other. -/
  | exclusiveFlags
deriving Repr, DecidableEq

/-- A place of a text as line and column, both from one. -/
def lineAndColumn (cs : List Char) (place : Nat) : Nat × Nat :=
  let before := cs.take place
  let column := (before.reverse.takeWhile (· != '\n')).length + 1
  (before.count '\n' + 1, column)

/-- The wording of a refusal of the given expression. A place is also told as line and column when the
expression has more than one line. -/
def Refusal.message (source : String) : Refusal → String
  | .syntactic complaint none => complaint.message
  | .syntactic complaint (some place) =>
    let base := complaint.message ++ " at position " ++ Text.showNat place
    if source.toList.contains '\n' then
      let (line, column) := lineAndColumn source.toList place
      base ++ " (line " ++ Text.showNat line ++ ", column " ++ Text.showNat column ++ ")"
    else base
  | .repeatTooLarge => "the repetition number is too large"
  | .tooManyDigits count =>
    "Exceeds the limit (4300 digits) for integer string conversion: value has " ++
      Text.showNat count ++ " digits; use sys.set_int_max_str_digits() to increase the limit"
  | .exclusiveFlags => "ASCII and UNICODE flags are incompatible"

end CaptureConfig.Pattern
