import CaptureConfig.Datum.Basic
import CaptureConfig.Decimal.Literal
import CaptureConfig.Text.Base64
import CaptureConfig.Text.CasePair
import CaptureConfig.Yaml.Fault
import CaptureConfig.Yaml.Tag

/-!
# The values of scalars

The text of a scalar is read as its tag says. A tag that was told by the shape of the text nearly always
fits; one that is written out need not.
-/

namespace CaptureConfig.Yaml.Scalar

/-- The text in small letters. -/
def lowered (cs : List Char) : List Char := cs.map fun c => Char.ofNat (Text.small c.toNat)

/-- The truth value that a word stands for. -/
def flag (cs : List Char) : Except ScalarFault Bool :=
  let word := String.ofList (lowered cs)
  if ["yes", "true", "on"].contains word then .ok true
  else if ["no", "false", "off"].contains word then .ok false
  else .error (.notFlag word)

/-- A number without its underscores, apart from its sign (true for minus). -/
def signed (cs : List Char) : Except ScalarFault (Bool × List Char) :=
  match cs.filter (· != '_') with
  | [] => .error .emptyNumber
  | c :: rest =>
    if c == '-' then .ok (true, rest) else if c == '+' then .ok (false, rest)
    else .ok (false, c :: rest)

/-- An integer in base ten. -/
def decimal (cs : List Char) : Except ScalarFault Int :=
  match Text.readInteger (String.ofList cs) with
  | .ok i => .ok i
  | .error .malformed => .error (.notInteger 10 (String.ofList cs))
  | .error (.tooManyDigits count) => .error (.tooManyDigits count)

/-- The value of a digit of any script, or of a letter that serves as one. -/
def digitOf? (base : Nat) (c : Char) : Option Nat :=
  ((Text.digitValue? c).or (Text.hexValue? c)).filter (· < base)

/-- The digits without the mark of their base. -/
def withoutMark (letter : Char) : List Char → List Char
  | '0' :: c :: cs => if c.toLower == letter && !cs.isEmpty then cs else '0' :: c :: cs
  | cs => cs

/-- An integer in another base, of which the mark has the given letter. -/
def inBase (base : Nat) (letter : Char) (cs : List Char) : Except ScalarFault Int :=
  let (negative, digits) := Text.takeSign (Text.trimChars cs)
  match (withoutMark letter digits).mapM (digitOf? base) with
  | some (d :: ds) =>
    let n : Int := Text.ofDigits base (d :: ds)
    .ok (if negative then -n else n)
  | _ => .error (.notInteger base (String.ofList cs))

/-- The number that places of base sixty make. -/
def sexagesimal (places : List Int) : Int := places.foldl (fun acc d => 60 * acc + d) 0

/-- An unsigned integer. -/
def magnitude : List Char → Except ScalarFault Int
  | [] => .error .emptyNumber
  | ['0'] => .ok 0
  | '0' :: 'b' :: digits => inBase 2 'b' digits
  | '0' :: 'x' :: digits => inBase 16 'x' digits
  | '0' :: digits => inBase 8 'o' ('0' :: digits)
  | digits =>
    if digits.contains ':' then sexagesimal <$> (Text.splitChars ':' digits).mapM decimal
    else decimal digits

/-- An integer. -/
def integer (cs : List Char) : Except ScalarFault Int := do
  let (negative, digits) ← signed cs
  let n ← magnitude digits
  return if negative then -n else n

/-- A floating-point number in base ten. -/
def real (cs : List Char) : Except ScalarFault Binary64 :=
  match Binary64.ofText? (String.ofList cs) with
  | some x => .ok x
  | none => .error (.notNumber (String.ofList cs))

/-- The number that places of base sixty make, the last place first, added up in that order. -/
def sexagesimalReal : Int → Binary64 → List Binary64 → Binary64
  | _, sum, [] => sum
  | base, sum, x :: xs => sexagesimalReal (60 * base) (sum.plus (x.times base)) xs

/-- A floating-point number. -/
def float (cs : List Char) : Except ScalarFault Binary64 := do
  let (negative, digits) ← signed (lowered cs)
  let withSign (x : Binary64) : Binary64 := if negative then x.negate else x
  if digits == ".inf".toList then return .infinity negative
  else if digits == ".nan".toList then return .nan
  else if digits.contains ':' then
    let places ← (Text.splitChars ':' digits).mapM real
    return withSign (sexagesimalReal 1 (Binary64.zero false) places.reverse)
  else return withSign (← real digits)

/-- The number that decimal digits of ASCII make. -/
def digitsValue (cs : List Char) : Nat := Text.ofDecimal (cs.map fun c => c.toNat - 48)

/-- The point of time with the given parts. A fraction counts to six places. -/
def timeOf (p : Shape.TimeParts) : Except CalendarFault Datum := do
  let year := digitsValue p.year
  let month := digitsValue p.month
  let day := digitsValue p.day
  match p.clock with
  | none => return .date (← Date.make? year month day)
  | some (hour, minute, second, fraction) =>
    let micros := digitsValue ((fraction ++ List.replicate 6 '0').take 6)
    let offset := p.zone.map fun (sign, hours, minutes) =>
      let distance : Int := digitsValue hours * 60 + digitsValue minutes
      if sign == '-' then -distance else distance
    return .moment (← Moment.make? year month day (digitsValue hour) (digitsValue minute)
      (digitsValue second) micros offset)

/-- A point of time. -/
def timestamp (cs : List Char) : Except ScalarFault Datum :=
  match Shape.timeParts? (if cs.getLast? == some '\n' then cs.dropLast else cs) with
  | some p => (timeOf p).mapError .calendar
  | none => .error .notTimestamp

/-- The problem of a text with characters beyond ASCII where bytes are expected. -/
def notAscii? (cs : List Char) : Option Problem :=
  let beyond (c : Char) : Bool := 128 ≤ c.toNat
  match cs.dropWhile fun c => !beyond c with
  | [] => none
  | c :: rest =>
    let first := cs.length - (c :: rest).length
    some (.notAscii first (first + (rest.takeWhile beyond).length) c)

/-- Bytes written in base 64. -/
def binary (cs : List Char) (mark : Mark) : Except Fault Datum :=
  match notAscii? cs with
  | some problem => .error (.marked none problem mark)
  | none =>
    match Text.ofBase64 cs with
    | .ok bytes => .ok (.bytes bytes)
    | .error fault => .error (.marked none (.notBase64 fault.message) mark)

/-- The value of a scalar whose tag calls for one. -/
def value (tag : Tag) (text : String) (mark : Mark) : Except Fault Datum :=
  let cs := text.toList
  match tag with
  | .null => .ok .null
  | .bool => ((flag cs).map Datum.bool).mapError .scalar
  | .int => ((integer cs).map Datum.int).mapError .scalar
  | .float => ((float cs).map Datum.float).mapError .scalar
  | .timestamp => (timestamp cs).mapError .scalar
  | .binary => binary cs mark
  | _ => .ok (.text text)

end CaptureConfig.Yaml.Scalar
