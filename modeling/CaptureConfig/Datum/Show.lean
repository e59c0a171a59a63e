import CaptureConfig.Datum.Basic
import CaptureConfig.Text.Quoted

/-!
# The text of a value

A text stands for itself; every other value has one spelling. Inside a collection texts are quoted.
Integers of more than 4300 digits have no text.
-/

namespace CaptureConfig.Datum

/-- One byte inside quotes. -/
def showByte (quote : Char) (b : UInt8) : String :=
  let n := b.toNat
  let c := Char.ofNat n
  if c == quote || c == '\\' then String.ofList ['\\', c]
  else if c == '\n' then "\\n"
  else if c == '\r' then "\\r"
  else if c == '\t' then "\\t"
  else if 32 ≤ n && n < 127 then c.toString
  else "\\x" ++ Text.hex 2 n

/-- Bytes between quotes. -/
def showBytes (bs : List UInt8) : String :=
  let quote := Text.quoteFor (bs.map fun b => Char.ofNat b.toNat)
  "b" ++ quote.toString ++ String.join (bs.map (showByte quote)) ++ quote.toString

/-- A date inside a collection. -/
def showDate (d : Date) : String :=
  "datetime.date(" ++ Text.showNat d.year ++ ", " ++ Text.showNat d.month ++ ", " ++
    Text.showNat d.day ++ ")"

/-- The distance from universal time inside a collection. -/
def showOffset (minutes : Int) : String :=
  if minutes = 0 then ", tzinfo=datetime.timezone.utc"
  else
    let days := minutes.fdiv 1440
    let seconds := (minutes - days * 1440) * 60
    let parts := (if days = 0 then [] else ["days=" ++ Text.showInteger days]) ++
      (if seconds = 0 then [] else ["seconds=" ++ Text.showInteger seconds])
    ", tzinfo=datetime.timezone(datetime.timedelta(" ++ String.intercalate ", " parts ++ "))"

/-- A moment inside a collection; trailing zeros of the clock are left out. -/
def showMoment (m : Moment) : String :=
  let tail := if m.micros ≠ 0 then [m.second, m.micros] else if m.second ≠ 0 then [m.second] else []
  let numbers := [m.date.year, m.date.month, m.date.day, m.hour, m.minute] ++ tail
  "datetime.datetime(" ++ String.intercalate ", " (numbers.map Text.showNat) ++
    (m.offset.map showOffset).getD "" ++ ")"

/-- Words between brackets. -/
def bracketed (left right : String) (words : List String) : String :=
  left ++ String.intercalate ", " words ++ right

mutual

/-- The spelling of a value inside a collection. -/
def inner? : Datum → Option String
  | .null => some "None"
  | .bool b => some (if b then "True" else "False")
  | .int i => Text.writeInteger? i
  | .float x => some x.text
  | .text s => some (Text.quoted s)
  | .bytes bs => some (showBytes bs)
  | .date d => some (showDate d)
  | .moment m => some (showMoment m)
  | .list xs => (innerAll? xs).map (bracketed "[" "]")
  | .pair x y =>
    match inner? x, inner? y with
    | some a, some b => some (bracketed "(" ")" [a, b])
    | _, _ => none
  | .set [] => some "set()"
  | .set (x :: xs) => (innerAll? (x :: xs)).map (bracketed "\x7b" "\x7d")
  | .map entries => (innerEntries? entries).map (bracketed "\x7b" "\x7d")

/-- The spellings of several values. -/
def innerAll? : List Datum → Option (List String)
  | [] => some []
  | x :: xs =>
    match inner? x, innerAll? xs with
    | some a, some as => some (a :: as)
    | _, _ => none

/-- The spellings of the entries of a mapping. -/
def innerEntries? : List (Datum × Datum) → Option (List String)
  | [] => some []
  | (k, v) :: rest =>
    match inner? k, inner? v, innerEntries? rest with
    | some a, some b, some as => some ((a ++ ": " ++ b) :: as)
    | _, _, _ => none

end

/-- The text of a value. -/
def text? : Datum → Option String
  | .text s => some s
  | .date d => some d.text
  | .moment m => some m.text
  | x => inner? x

end CaptureConfig.Datum
