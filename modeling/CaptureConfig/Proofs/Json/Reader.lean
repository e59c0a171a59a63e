import CaptureConfig.Assoc
import CaptureConfig.Decimal.Literal
import CaptureConfig.Json.Basic

/-!
# Reading JSON texts

A text is cut into tokens, from which values are put together. Inside quotes a character stands for its units of
sixteen bits, an escape for one unit, and the units together for the characters of the text; a surrogate that has
no partner stands for none, so such a text is refused. A number with a fraction or an exponent is a
floating-point number, and any other one an integer. Of members with one name the last one counts.
-/

namespace CaptureConfig.Json

/-- A token of a JSON text. -/
inductive Token where
  | leftBracket
  | rightBracket
  | leftBrace
  | rightBrace
  | comma
  | colon
  /-- What stands in quotes. -/
  | text (s : String)
  /-- A run of characters outside quotes. -/
  | word (cs : List Char)
deriving Repr, DecidableEq

/-! ## What stands in quotes -/

/-- The units of sixteen bits of a character, which are a pair of surrogates beyond `U+FFFF`. -/
def units (c : Char) : List Nat :=
  if c.toNat < 0x10000 then [c.toNat]
  else [0xD800 + (c.toNat - 0x10000) / 0x400, 0xDC00 + (c.toNat - 0x10000) % 0x400]

/-- The unit of a short escape. -/
def shortEscape? : Char → Option Nat
  | '"' => some 34
  | '\\' => some 92
  | '/' => some 47
  | 'b' => some 8
  | 'f' => some 12
  | 'n' => some 10
  | 'r' => some 13
  | 't' => some 9
  | _ => none

/-- The units that the characters in quotes stand for. Control characters have to be escaped. -/
def quotedUnits? : List Char → Option (List Nat)
  | [] => some []
  | '\\' :: 'u' :: a :: b :: c :: d :: cs => do
    let digits ← [a, b, c, d].mapM Text.hexValue?
    let ns ← quotedUnits? cs
    return Text.ofDigits 16 digits :: ns
  | '\\' :: c :: cs => do
    let n ← shortEscape? c
    let ns ← quotedUnits? cs
    return n :: ns
  | ['\\'] => none
  | c :: cs => do
    guard (32 ≤ c.toNat)
    let ns ← quotedUnits? cs
    return units c ++ ns

/-- The characters that units stand for. -/
def ofUnits? : List Nat → Option (List Char)
  | [] => some []
  | n :: ns =>
    if 0xD800 ≤ n ∧ n < 0xDC00 then
      match ns with
      | [] => none
      | m :: ns =>
        if 0xDC00 ≤ m ∧ m < 0xE000 then
          (ofUnits? ns).map (Char.ofNat (0x10000 + (n - 0xD800) * 0x400 + (m - 0xDC00)) :: ·)
        else none
    else if 0xDC00 ≤ n ∧ n < 0xE000 then none
    else (ofUnits? ns).map (Char.ofNat n :: ·)

/-- The text that the characters in quotes stand for. -/
def quoted? (cs : List Char) : Option String :=
  ((quotedUnits? cs).bind ofUnits?).map String.ofList

/-! ## Tokens -/

/-- White space between tokens. -/
def isSpace (c : Char) : Bool := c == ' ' || c == '\t' || c == '\n' || c == '\r'

/-- The token that is a single character. -/
def mark? : Char → Option Token
  | '[' => some .leftBracket
  | ']' => some .rightBracket
  | '\x7b' => some .leftBrace
  | '\x7d' => some .rightBrace
  | ',' => some .comma
  | ':' => some .colon
  | _ => none

/-- Whether a character belongs to the word that it stands in. -/
def isWordChar (c : Char) : Bool := !isSpace c && c != '"' && (mark? c).isNone

/-- A place in a text: between tokens, or in a token of which some characters are read already. -/
inductive Place where
  | between
  | word (done : List Char)
  | quotes (done : List Char)
  /-- In quotes, behind a backslash. -/
  | slash (done : List Char)
deriving Repr, DecidableEq

/-- The tokens that a character completes where none has begun, and the place behind it. -/
def begin (c : Char) : List Token × Place :=
  if isSpace c then ([], .between)
  else if c = '"' then ([], .quotes [])
  else
    match mark? c with
    | some t => ([t], .between)
    | none => ([], .word [c])

/-- The tokens that a character completes, and the place behind it. -/
def step : Place → Char → Option (List Token × Place)
  | .between, c => some (begin c)
  | .word done, c =>
    if isWordChar c then some ([], .word (done ++ [c]))
    else some (.word done :: (begin c).1, (begin c).2)
  | .quotes done, c =>
    if c = '"' then (quoted? done).map fun s => ([.text s], .between)
    else if c = '\\' then some ([], .slash done)
    else some ([], .quotes (done ++ [c]))
  | .slash done, c => some ([], .quotes (done ++ ['\\', c]))

/-- The tokens of the rest of a text, from a place in it. -/
def tokens? : Place → List Char → Option (List Token)
  | .between, [] => some []
  | .word done, [] => some [.word done]
  | .quotes _, [] => none
  | .slash _, [] => none
  | place, c :: cs => do
    let (ts, place') ← step place c
    let ts' ← tokens? place' cs
    return ts ++ ts'

/-! ## Values -/

/-- The names of values. -/
def constants : List (String × Json) :=
  [("null", .null), ("true", .bool true), ("false", .bool false), ("NaN", .float .nan),
    ("Infinity", .float (.infinity false)), ("-Infinity", .float (.infinity true))]

/-- One digit or more. -/
def areDigits (cs : List Char) : Bool := !cs.isEmpty && cs.all Char.isDigit

/-- Digits without a needless zero in front. -/
def areWhole (cs : List Char) : Bool := areDigits cs && (cs.head? != some '0' || cs.length == 1)

/-- The number that a word is. -/
def number? (cs : List Char) : Option Json := do
  let unsigned := if cs.head? = some '-' then cs.tail else cs
  let (front, exponent) := unsigned.span fun c => c != 'e' && c != 'E'
  let (whole, fraction) := front.span (· != '.')
  guard (areWhole whole && (fraction.isEmpty || areDigits fraction.tail) &&
    (exponent.isEmpty || areDigits (Text.takeSign exponent.tail).2))
  if fraction.isEmpty && exponent.isEmpty then
    (Text.readInteger (String.ofList cs)).toOption.map .int
  else (Binary64.ofText? (String.ofList cs)).map .float

/-- The value that a word is. -/
def wordValue? (cs : List Char) : Option Json :=
  match constants.lookup (String.ofList cs) with
  | some x => some x
  | none => number? cs

/-- An array or an object of which some parts are read already. -/
inductive Frame where
  | array (done : List Json)
  /-- The name belongs to the member whose value comes next. -/
  | object (done : List (String × Json)) (name : String)

mutual

/-- Reads a value inside the given frames, the innermost first, and what follows it. -/
def value? (frames : List Frame) : List Token → Option Json
  | .leftBracket :: .rightBracket :: ts => after? frames (.array []) ts
  | .leftBracket :: ts => value? (.array [] :: frames) ts
  | .leftBrace :: .rightBrace :: ts => after? frames (.object []) ts
  | .leftBrace :: ts => nextMember? frames [] ts
  | .text s :: ts => after? frames (.text s) ts
  | .word cs :: ts => do
    let x ← wordValue? cs
    after? frames x ts
  | _ => none

/-- Reads a member of an object, and what follows it. -/
def nextMember? (frames : List Frame) (done : List (String × Json)) : List Token → Option Json
  | .text name :: .colon :: ts => value? (.object done name :: frames) ts
  | _ => none

/-- Reads what follows a value. -/
def after? : List Frame → Json → List Token → Option Json
  | [], x, [] => some x
  | .array done :: frames, x, .comma :: ts => value? (.array (done ++ [x]) :: frames) ts
  | .array done :: frames, x, .rightBracket :: ts => after? frames (.array (done ++ [x])) ts
  | .object done name :: frames, x, .comma :: ts => nextMember? frames (Assoc.insert name x done) ts
  | .object done name :: frames, x, .rightBrace :: ts =>
    after? frames (.object (Assoc.insert name x done)) ts
  | _, _, _ => none

end

/-- The value that a text denotes. -/
def read? (s : String) : Option Json := do
  let ts ← tokens? .between s.toList
  value? [] ts

end CaptureConfig.Json
