import CaptureConfig.Datum.Show
import CaptureConfig.Decimal.Rounded

/-!
# Message templates

A template holds directives that begin with a percent sign: a name in parentheses, flags, a width, a
precision and a conversion. Directives take the arguments one after another, or by name from a mapping.
-/

namespace CaptureConfig.Template

/-- The arguments of a template. -/
inductive Arguments where
  | inOrder (xs : List Datum)
  | byName (entries : List (Datum × Datum))

/-- Why a template cannot be filled. -/
inductive Fault where
  | incomplete
  | incompleteName
  | tooFew
  | tooMany
  | noMapping
  | noName (name : String)
  | unsupported (c : Char) (index : Nat)
  | notReal (c : Char) (kind : String)
  | notInteger (c : Char) (kind : String)
  | notNumber (kind : String)
  | notChar
  | charTooLarge
  | undefinedNumber
  | infiniteNumber
  | numberTooLarge
  | starNotInteger
  | tooLong
  | widthTooLarge
  | precisionTooLarge
  | starWidthTooLarge
  | starPrecisionTooLarge
deriving Repr, DecidableEq

/-- The wording of a fault. -/
def Fault.message : Fault → String
  | .incomplete => "incomplete format"
  | .incompleteName => "incomplete format key"
  | .tooFew => "not enough arguments for format string"
  | .tooMany => "not all arguments converted during string formatting"
  | .noMapping => "format requires a mapping"
  | .noName name => Text.quoted name
  | .unsupported c index =>
    "unsupported format character '" ++ (if 32 ≤ c.toNat && c.toNat < 127 then c.toString else "?") ++
      "' (0x" ++ Text.numeral 16 c.toNat ++ ") at index " ++ Text.showNat index
  | .notReal c kind => "%" ++ c.toString ++ " format: a real number is required, not " ++ kind
  | .notInteger c kind => "%" ++ c.toString ++ " format: an integer is required, not " ++ kind
  | .notNumber kind => "must be real number, not " ++ kind
  | .notChar => "%c requires int or char"
  | .charTooLarge => "%c arg not in range(0x110000)"
  | .undefinedNumber => "cannot convert float NaN to integer"
  | .infiniteNumber => "cannot convert float infinity to integer"
  | .numberTooLarge => "int too large to convert to float"
  | .starNotInteger => "* wants int"
  | .tooLong =>
    "Exceeds the limit (4300 digits) for integer string conversion; " ++
      "use sys.set_int_max_str_digits() to increase the limit"
  | .widthTooLarge => "width too big"
  | .precisionTooLarge => "precision too big"
  | .starWidthTooLarge => "Python int too large to convert to C ssize_t"
  | .starPrecisionTooLarge => "Python int too large to convert to C int"

/-- A directive without its conversion. -/
structure Directive where
  left : Bool := false
  plus : Bool := false
  blank : Bool := false
  alternate : Bool := false
  zero : Bool := false
  width : Nat := 0
  precision : Option Nat := none

/-- What is known while a template is filled. -/
structure Filling where
  rest : List Char
  place : Nat := 0
  arguments : Arguments
  /-- With a mapping, the value to be used next: the one looked up last, and at first the mapping. -/
  pending : Option Datum := none
  done : List Char := []

/-- A step of filling a template. -/
abbrev Filler := StateT Filling (Except Fault)

namespace Filler

/-- The next character of the template. -/
def take : Filler (Option Char) := do
  let f ← get
  match f.rest with
  | [] => return none
  | c :: rest =>
    set { f with rest, place := f.place + 1 }
    return some c

/-- The next character of a directive, which must not end here. -/
def takeInside : Filler Char := do
  match ← take with
  | some c => return c
  | none => throw .incomplete

/-- The next argument. -/
def argument : Filler Datum := do
  let f ← get
  match f.arguments, f.pending with
  | .inOrder [], _ => throw .tooFew
  | .inOrder (x :: xs), _ =>
    set { f with arguments := .inOrder xs }
    return x
  | .byName _, some d =>
    set { f with pending := none }
    return d
  | .byName _, none => throw .tooFew

/-- Puts text into the result. -/
def put (cs : List Char) : Filler Unit :=
  modify fun f => { f with done := f.done ++ cs }

/-- The name in parentheses, of which the first one is read. -/
def name : Nat → Nat → List Char → Filler String
  | 0, _, _ => throw .incompleteName
  | n + 1, depth, found => do
    match ← take with
    | none => throw .incompleteName
    | some ')' =>
      if depth = 0 then return String.ofList found.reverse
      else name n (depth - 1) (')' :: found)
    | some '(' => name n (depth + 1) ('(' :: found)
    | some c => name n depth (c :: found)

/-- Looks an argument up by the name in parentheses, of which the first one is read. -/
def lookUp (bound : Nat) : Filler Unit := do
  match (← get).arguments with
  | .byName es =>
    let key ← name bound 0 []
    match Datum.entry? key es with
    | some d => modify fun f => { f with pending := some d }
    | none => throw (.noName key)
  | _ => throw .noMapping

/-- The flags from a character on, and the character after them. -/
def flags : Nat → Directive → Char → Filler (Directive × Char)
  | 0, d, c => return (d, c)
  | n + 1, d, c => do
    match c with
    | '-' => flags n { d with left := true } (← takeInside)
    | '+' => flags n { d with plus := true } (← takeInside)
    | ' ' => flags n { d with blank := true } (← takeInside)
    | '#' => flags n { d with alternate := true } (← takeInside)
    | '0' => flags n { d with zero := true } (← takeInside)
    | _ => return (d, c)

/-- A number from a character on that is not above a limit, and the character after it. -/
def number (limit : Nat) (excess : Fault) : Nat → Nat → Char → Filler (Nat × Char)
  | 0, acc, c => return (acc, c)
  | n + 1, acc, c => do
    if '0' ≤ c && c ≤ '9' then
      let next := 10 * acc + (c.toNat - 48)
      if limit < next then throw excess
      number limit excess n next (← takeInside)
    else return (acc, c)

/-- A width or precision given by an argument, whose size is limited. -/
def star (limit : Nat) (excess : Fault) : Filler Int := do
  let x ← argument
  let i : Int ← match x with
    | .int i => pure i
    | .bool b => pure (if b then 1 else 0)
    | _ => throw .starNotInteger
  if i < -(limit : Int) - 1 || (limit : Int) < i then throw excess
  return i

end Filler

/-- A text filled up to the width of a directive. -/
def pad (d : Directive) (s : String) : List Char :=
  (if d.left then Text.padRight ' ' d.width s else Text.padLeft ' ' d.width s).toList

/-- A number with its sign and its base mark, filled up to the width of a directive. -/
def padNumber (d : Directive) (negative : Bool) (mark digits : String) : List Char :=
  let sign := if negative then "-" else if d.plus then "+" else if d.blank then " " else ""
  if d.zero && !d.left then
    let room := d.width - sign.length - mark.length
    (sign ++ mark ++ Text.padLeft '0' room digits).toList
  else pad d (sign ++ mark ++ digits)

/-- A text with all characters beyond ASCII escaped. -/
def asciiOnly (s : String) : String :=
  String.join (s.toList.map fun c => if c.toNat < 128 then c.toString else Text.escapeCode c.toNat)

/-- An integer in place of a real number, with its fraction cut off. -/
def truncated (c : Char) : Datum → Except Fault Int
  | .int i => .ok i
  | .bool b => .ok (if b then 1 else 0)
  | .float .nan => .error .undefinedNumber
  | .float (.infinity _) => .error .infiniteNumber
  | .float x =>
    match x.scaledValue? with
    | some v => .ok (v.tdiv (Int.pow 2 1074))
    | none => .error .undefinedNumber
  | x => .error (.notReal c x.kindName)

/-- An integer. -/
def whole (c : Char) : Datum → Except Fault Int
  | .int i => .ok i
  | .bool b => .ok (if b then 1 else 0)
  | x => .error (.notInteger c x.kindName)

/-- A real number. -/
def real : Datum → Except Fault Binary64
  | .float x => .ok x
  | .int i =>
    match Binary64.ofInt i with
    | .infinity _ => .error .numberTooLarge
    | x => .ok x
  | .bool b => .ok (Binary64.ofInt (if b then 1 else 0))
  | x => .error (.notNumber x.kindName)

/-- The form of decimals that a conversion asks for. -/
def decimalForm? (c : Char) : Option DecimalForm :=
  match c.toLower with
  | 'f' => some .fixed
  | 'e' => some .exponent
  | 'g' => some .general
  | _ => none

/-- The text of a real number; a capital conversion writes capitals. -/
def convertReal (d : Directive) (c : Char) (form : DecimalForm) (x : Binary64) : List Char :=
  let size := x.sizeIn form d.alternate (d.precision.getD 6)
  let cased := if c.isUpper then String.ofList (size.toList.map Char.toUpper) else size
  padNumber d x.isNegative "" cased

/-- The text of a value under a conversion. -/
def convert (d : Directive) (c : Char) (x : Datum) : Except Fault (List Char) := do
  let cut (s : String) : String := match d.precision with
    | some p => String.ofList (s.toList.take p)
    | none => s
  let text (t : Option String) : Except Fault (List Char) :=
    match t with
    | some s => .ok (pad d (cut s))
    | none => .error .tooLong
  let atLeast (s : String) : String := Text.padLeft '0' (d.precision.getD 1) s
  match c with
  | 's' => text x.text?
  | 'r' => text x.inner?
  | 'a' => text (x.inner?.map asciiOnly)
  | 'c' =>
    match x with
    | .text s => if s.length = 1 then return pad d s else throw .notChar
    | .bool b => return pad d (Char.ofNat (if b then 1 else 0)).toString
    | .int i =>
      if 0 ≤ i && i < 0x110000 then return pad d (Char.ofNat i.toNat).toString
      else throw .charTooLarge
    | _ => throw .notChar
  | 'x' =>
    let i ← whole c x
    return padNumber d (i < 0) (if d.alternate then "0x" else "") (atLeast (Text.numeral 16 i.natAbs))
  | 'X' =>
    let i ← whole c x
    let digits := String.ofList ((Text.numeral 16 i.natAbs).toList.map Char.toUpper)
    return padNumber d (i < 0) (if d.alternate then "0X" else "") (atLeast digits)
  | 'o' =>
    let i ← whole c x
    return padNumber d (i < 0) (if d.alternate then "0o" else "") (atLeast (Text.numeral 8 i.natAbs))
  | _ =>
    if let some form := decimalForm? c then return convertReal d c form (← real x)
    let i ← truncated c x
    match Text.writeInteger? i.natAbs with
    | some digits => return padNumber d (i < 0) "" (atLeast digits)
    | none => throw .tooLong

/-- Whether a character is a conversion. -/
def isConversion (c : Char) : Bool :=
  "sradiuxXoceEfFgG".toList.contains c

/-- The greatest width. -/
def maxWidth : Nat := Nat.pow 2 63 - 1

/-- The greatest precision. -/
def maxPrecision : Nat := Nat.pow 2 31 - 1

namespace Filler

/-- One directive, of which the percent sign is read; a second percent sign stands for itself. -/
def directive : Filler Unit := do
  let bound := (← get).rest.length + 1
  let mut c ← takeInside
  if c = '%' then
    put ['%']
    return
  if c = '(' then
    lookUp bound
    c ← takeInside
  let (d, c') ← flags bound {} c
  let mut d := d
  c := c'
  if c = '*' then
    let i ← star maxWidth .starWidthTooLarge
    d := { d with width := i.natAbs, left := d.left || i < 0 }
    c ← takeInside
  else
    let (n, c') ← number maxWidth .widthTooLarge bound 0 c
    d := { d with width := n }
    c := c'
  if c = '.' then
    c ← takeInside
    if c = '*' then
      d := { d with precision := some (← star maxPrecision .starPrecisionTooLarge).toNat }
      c ← takeInside
    else
      let (n, c') ← number maxPrecision .precisionTooLarge bound 0 c
      d := { d with precision := some n }
      c := c'
  if c = 'h' || c = 'l' || c = 'L' then c ← takeInside
  let x ← argument
  if isConversion c then put (← (convert d c x : Except Fault (List Char)))
  else throw (.unsupported c ((← get).place - 1))

/-- The rest of a template. -/
def fill : Nat → Filler Unit
  | 0 => return
  | n + 1 => do
    match ← take with
    | none => return
    | some '%' => directive; fill n
    | some c => put [c]; fill n

end Filler

/-- The text that a template and its arguments make. All arguments given in order have to be used. -/
def format (template : String) (arguments : Arguments) : Except Fault String := do
  let cs := template.toList
  let pending := match arguments with
    | .byName es => some (.map es)
    | .inOrder _ => none
  let (_, f) ← (Filler.fill (cs.length + 1)).run { rest := cs, arguments, pending }
  match f.arguments with
  | .inOrder (_ :: _) => throw .tooMany
  | _ => return String.ofList f.done

end CaptureConfig.Template
