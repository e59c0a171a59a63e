import CaptureConfig.Text.Split

/-!
# The shapes of plain scalars

Truth values, nothing, numbers and points of time are told by their spelling alone.
-/

namespace CaptureConfig.Yaml.Shape

/-- Decimal digits of ASCII. -/
def isDigit (c : Char) : Bool := '0' ≤ c && c ≤ '9'

/-- Digits of a base of at most sixteen. -/
def isDigitOf (base : Nat) (c : Char) : Bool :=
  let n := c.toNat
  if isDigit c then n - 48 < base
  else ('a' ≤ c && n - 87 < base) || ('A' ≤ c && c ≤ 'Z' && n - 55 < base)

/-- The words for truth values. -/
def flagWords : List String :=
  ["yes", "Yes", "YES", "no", "No", "NO", "true", "True", "TRUE", "false", "False", "FALSE",
   "on", "On", "ON", "off", "Off", "OFF"]

/-- Whether a text is a word for a truth value. -/
def isFlag (cs : List Char) : Bool := flagWords.contains (String.ofList cs)

/-- Whether a text is a word for nothing. -/
def isNull (cs : List Char) : Bool := ["", "~", "null", "Null", "NULL"].contains (String.ofList cs)

/-- A text without its sign. -/
def unsigned : List Char → List Char
  | '+' :: cs => cs
  | '-' :: cs => cs
  | cs => cs

/-- Digits with underscores between or after them. -/
def isGrouped (base : Nat) (cs : List Char) : Bool :=
  !cs.isEmpty && cs.all fun c => isDigitOf base c || c == '_'

/-- Decimal digits with underscores between or after them, the first one not an underscore. -/
def isWhole (cs : List Char) : Bool := isGrouped 10 cs && cs.head? != some '_'

/-- A number below sixty after a colon. -/
def isSixtieth : List Char → Bool
  | [c] => isDigit c
  | [d, c] => '0' ≤ d && d ≤ '5' && isDigit c
  | _ => false

/-- A whole number and further places of base sixty, with colons between them. -/
def isSexagesimal (cs : List Char) : Bool :=
  match Text.splitChars ':' cs with
  | first :: place :: places => isWhole first && isSixtieth place && places.all isSixtieth
  | _ => false

/-- An integer: in base two, eight, ten, sixteen or sixty. -/
def isInt (cs : List Char) : Bool :=
  match unsigned cs with
  | ['0'] => true
  | '0' :: 'b' :: digits => isGrouped 2 digits
  | '0' :: 'x' :: digits => isGrouped 16 digits
  | '0' :: digits => isGrouped 8 digits
  | digits => isWhole digits || isSexagesimal digits

/-- An exponent, which may be absent but needs its sign. -/
def isExponent : List Char → Bool
  | [] => true
  | e :: sign :: digits =>
    (e == 'e' || e == 'E') && (sign == '+' || sign == '-') && !digits.isEmpty && digits.all isDigit
  | _ => false

/-- A fraction after its point, with an exponent. -/
def isFraction (cs : List Char) : Bool :=
  isExponent (cs.dropWhile fun c => isDigit c || c == '_')

/-- A floating-point number. -/
def isFloat (cs : List Char) : Bool :=
  let (whole, rest) := (unsigned cs).span (· != '.')
  match rest with
  | [] => false
  | _ :: fraction =>
    let word := String.ofList fraction
    if whole.isEmpty then
      ["inf", "Inf", "INF"].contains word ||
        (cs.head? == some '.' &&
          (["nan", "NaN", "NAN"].contains word ||
            ((fraction.head?.map isDigit).getD false && isFraction fraction)))
    else
      (isWhole whole && isFraction fraction) ||
        (isSexagesimal whole && fraction.all fun c => isDigit c || c == '_')

/-- The parts of a point of time, as they are written. -/
structure TimeParts where
  year : List Char
  month : List Char
  day : List Char
  /-- Hour, minute, second and the digits of the fraction. -/
  clock : Option (List Char × List Char × List Char × List Char) := none
  /-- The sign, the hours and the minutes of the distance from universal time. -/
  zone : Option (Char × List Char × List Char) := none
deriving Repr

/-- Takes between `least` and two digits. -/
def digits? (least : Nat) (cs : List Char) : Option (List Char × List Char) :=
  let found := (cs.take 2).takeWhile isDigit
  if found.length < least then none else some (found, cs.drop found.length)

/-- Takes a given character. -/
def mark? (c : Char) : List Char → Option (List Char)
  | d :: cs => if c = d then some cs else none
  | [] => none

/-- Reads a distance from universal time up to the end; it may be absent. -/
def zone? (cs : List Char) : Option (Option (Char × List Char × List Char)) :=
  match cs.dropWhile fun c => c == ' ' || c == '\t' with
  | [] => if cs.isEmpty then some none else none
  | ['Z'] => some (some ('+', [], []))
  | sign :: rest => do
    guard (sign == '+' || sign == '-')
    let (hours, rest) ← digits? 1 rest
    if rest.isEmpty then return some (sign, hours, [])
    let rest ← mark? ':' rest
    let (minutes, rest) ← digits? 2 rest
    guard rest.isEmpty
    return some (sign, hours, minutes)

/-- Reads a time of day and what follows it, up to the end. -/
def clock? (date : TimeParts) (cs : List Char) : Option TimeParts := do
  let (hour, rest) ← digits? 1 cs
  let rest ← mark? ':' rest
  let (minute, rest) ← digits? 2 rest
  let rest ← mark? ':' rest
  let (second, rest) ← digits? 2 rest
  let (fraction, rest) := match rest with
    | '.' :: rest => rest.span isDigit
    | rest => ([], rest)
  let zone ← zone? rest
  return { date with clock := some (hour, minute, second, fraction), zone }

/-- The parts of a point of time: a date, or a date, a time of day and a distance from universal time. -/
def timeParts? (cs : List Char) : Option TimeParts := do
  let year := (cs.take 4).takeWhile isDigit
  guard (year.length = 4)
  let rest ← mark? '-' (cs.drop 4)
  let (month, rest) ← digits? 1 rest
  let rest ← mark? '-' rest
  let (day, rest) ← digits? 1 rest
  let date : TimeParts := { year, month, day }
  match rest with
  | [] => return date
  | c :: rest =>
    if c == 'T' || c == 't' then clock? date rest
    else if c == ' ' || c == '\t' then
      clock? date (rest.dropWhile fun c => c == ' ' || c == '\t')
    else none

/-- A point of time; a date without a time of day needs all its digits. -/
def isTimestamp (cs : List Char) : Bool :=
  match timeParts? cs with
  | some p => p.clock.isSome || (p.month.length = 2 && p.day.length = 2)
  | none => false

end CaptureConfig.Yaml.Shape
