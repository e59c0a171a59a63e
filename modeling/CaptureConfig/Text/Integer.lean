import CaptureConfig.Text.Character

/-!
# Integers as text

Reading takes a sign, decimal digits of any script, and single underscores between digits; white space
around the whole is ignored. Writing uses the digits `0` to `9` and no underscore. Both refuse numerals
of more than 4300 digits.
-/

namespace CaptureConfig.Text

/-- Why a text is not read as an integer. -/
inductive IntegerFault where
  /-- The text is not a numeral. -/
  | malformed
  /-- The numeral has more digits than allowed. -/
  | tooManyDigits (count : Nat)
deriving Repr, DecidableEq

/-- The greatest number of digits of a numeral that is read or written. -/
def maxDigits : Nat := 4300

/-- The digit values of a numeral whose digits may be separated by single underscores. -/
def digitsOf? : List Char → Option (List Nat)
  | [] => none
  | [c] => (digitValue? c).map ([·])
  | c :: '_' :: cs => do
    let d ← digitValue? c
    let ds ← digitsOf? cs
    return d :: ds
  | c :: cs => do
    let d ← digitValue? c
    let ds ← digitsOf? cs
    return d :: ds

/-- The number that a list of decimal digit values denotes. -/
def ofDecimal (ds : List Nat) : Nat :=
  ds.foldl (fun acc d => 10 * acc + d) 0

/-- The sign of a numeral (true for minus) and what follows it. -/
def takeSign : List Char → Bool × List Char
  | '-' :: cs => (true, cs)
  | '+' :: cs => (false, cs)
  | cs => (false, cs)

/-- The integer that a text denotes. -/
def readInteger (s : String) : Except IntegerFault Int :=
  let (negative, rest) := takeSign (trimChars s.toList)
  match digitsOf? rest with
  | none => .error .malformed
  | some ds =>
    if maxDigits < ds.length then .error (.tooManyDigits ds.length)
    else
      let n := ofDecimal ds
      .ok (if negative then -(n : Int) else n)

/-- The decimal digits of a number, the most significant first. -/
def decimalChars (n : Nat) : List Char :=
  if n < 10 then [Char.ofNat (48 + n)]
  else decimalChars (n / 10) ++ [Char.ofNat (48 + n % 10)]
termination_by n
decreasing_by omega

/-- An integer as text, whatever its length. -/
def showInteger : Int → String
  | .ofNat n => String.ofList (decimalChars n)
  | .negSucc n => String.ofList ('-' :: decimalChars (n + 1))

/-- A natural number as text. -/
def showNat (n : Nat) : String :=
  String.ofList (decimalChars n)

/-- An integer as text, unless it has too many digits. -/
def writeInteger? (i : Int) : Option String :=
  if i.natAbs < Nat.pow 10 maxDigits then some (showInteger i) else none

end CaptureConfig.Text
