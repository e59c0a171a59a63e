import CaptureConfig.Calendar
import CaptureConfig.Text.Quoted
import CaptureConfig.Text.Utf8

/-!
# Faults of YAML documents

Most faults are marked: they say what was going on and where that began, and what is wrong and where. A
scalar whose tag promises more than its text holds has a fault of its own kind, without a mark.
-/

namespace CaptureConfig.Yaml

/-- A position in a document, counted from nought. -/
structure Mark where
  line : Nat := 0
  column : Nat := 0
deriving Repr, DecidableEq, Inhabited

/-- A position in a file, counted from one. -/
def Mark.text (file : String) (m : Mark) : String :=
  "  in \"" ++ file ++ "\", line " ++ Text.showNat (m.line + 1) ++ ", column " ++
    Text.showNat (m.column + 1)

/-- What was going on when something was found wrong. -/
inductive Activity where
  | scanning (what : String)
  | parsing (what : String)
  | constructing (what : String)
  | firstAnchor (name : String)
  | singleDocument
deriving Repr, DecidableEq

/-- The wording of an activity. -/
def Activity.text : Activity → String
  | .scanning what => "while scanning " ++ what
  | .parsing what => "while parsing " ++ what
  | .constructing what => "while constructing " ++ what
  | .firstAnchor name => "found duplicate anchor " ++ Text.quoted name ++ "; first occurrence"
  | .singleDocument => "expected a single document in the stream"

/-- What is wrong. -/
inductive Problem where
  | expected (wanted found : String)
  | got (wanted found : String)
  | noColon
  | notAllowed (what : String)
  | cannotStart (c : Char)
  | unknownEscape (c : Char)
  | endOfStream
  | documentSeparator
  | badEscapes (fault : Text.Utf8Fault)
  | secondVersion
  | futureVersion
  | secondHandle (handle : String)
  | unknownHandle (handle : String)
  | unknownAlias (name : String)
  | secondAnchor
  | secondDocument
  | unhashableKey
  | unknownTag (tag : String)
  | notAscii (first last : Nat) (c : Char)
  | notBase64 (reason : String)
deriving Repr, DecidableEq

/-- The wording of a problem. -/
def Problem.text : Problem → String
  | .expected wanted found => "expected " ++ wanted ++ ", but found " ++ found
  | .got wanted found => "expected " ++ wanted ++ ", but got " ++ found
  | .noColon => "could not find expected ':'"
  | .notAllowed what => what ++ " are not allowed here"
  | .cannotStart c => "found character " ++ Text.quoted c.toString ++ " that cannot start any token"
  | .unknownEscape c => "found unknown escape character " ++ Text.quoted c.toString
  | .endOfStream => "found unexpected end of stream"
  | .documentSeparator => "found unexpected document separator"
  | .badEscapes fault => fault.message
  | .secondVersion => "found duplicate YAML directive"
  | .futureVersion => "found incompatible YAML document (version 1.* is required)"
  | .secondHandle handle => "duplicate tag handle " ++ Text.quoted handle
  | .unknownHandle handle => "found undefined tag handle " ++ Text.quoted handle
  | .unknownAlias name => "found undefined alias " ++ Text.quoted name
  | .secondAnchor => "second occurrence"
  | .secondDocument => "but found another document"
  | .unhashableKey => "found unhashable key"
  | .unknownTag tag => "could not determine a constructor for the tag " ++ Text.quoted tag
  | .notAscii first last c =>
    "failed to convert base64 data into ascii: 'ascii' codec can't encode character" ++
      (if first = last then " '" ++ Text.escapeCode c.toNat ++ "' in position " ++ Text.showNat first
       else "s in position " ++ Text.showNat first ++ "-" ++ Text.showNat last) ++
      ": ordinal not in range(128)"
  | .notBase64 reason => "failed to decode base64 data: " ++ reason

/-- A scalar whose text does not fit its tag. -/
inductive ScalarFault where
  | notFlag (word : String)
  | notInteger (base : Nat) (text : String)
  | tooManyDigits (count : Nat)
  | notNumber (text : String)
  | emptyNumber
  | notTimestamp
  | calendar (fault : CalendarFault)
deriving Repr, DecidableEq

/-- The wording of a fault. -/
def ScalarFault.message : ScalarFault → String
  | .notFlag word => Text.quoted word
  | .notInteger base text =>
    "invalid literal for int() with base " ++ Text.showNat base ++ ": " ++ Text.quoted text
  | .tooManyDigits count =>
    "Exceeds the limit (4300 digits) for integer string conversion: value has " ++
      Text.showNat count ++ " digits; use sys.set_int_max_str_digits() to increase the limit"
  | .notNumber text => "could not convert string to float: " ++ Text.quoted text
  | .emptyNumber => "string index out of range"
  | .notTimestamp => "'NoneType' object has no attribute 'groupdict'"
  | .calendar fault => fault.message

/-- Why a document has no value. -/
inductive Fault where
  | marked (activity : Option (Activity × Mark)) (problem : Problem) (mark : Mark)
  /-- A character that no document may hold, with its place. -/
  | unacceptable (c : Char) (place : Nat)
  /-- An escape beyond the last code point. -/
  | codePoint (n : Nat)
  | scalar (fault : ScalarFault)
deriving Repr, DecidableEq

/-- The wording of a fault in the given file. The mark of the activity is left out when it is that of
the problem. -/
def Fault.message (file : String) : Fault → String
  | .marked none problem mark => problem.text ++ "\n" ++ mark.text file
  | .marked (some (activity, start)) problem mark =>
    activity.text ++ "\n" ++ (if start = mark then "" else start.text file ++ "\n") ++
      problem.text ++ "\n" ++ mark.text file
  | .unacceptable c place =>
    "unacceptable character #x" ++ Text.hex 4 c.toNat ++
      ": special characters are not allowed\n  in \"" ++ file ++ "\", position " ++ Text.showNat place
  | .codePoint n =>
    if n < Nat.pow 2 31 then "chr() arg not in range(0x110000)"
    else "Python int too large to convert to C int"
  | .scalar fault => fault.message

end CaptureConfig.Yaml
