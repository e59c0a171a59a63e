/-!
# Numerals in other bases

`numeral base n` writes a natural number without leading zeros; `padded` fills it up on the left.
-/

namespace CaptureConfig.Text

/-- The digit of a value below sixteen, in small letters. -/
def hexDigit (n : Nat) : Char :=
  if n < 10 then Char.ofNat (48 + n) else Char.ofNat (87 + n)

/-- The numeral of `n`, with at most `fuel + 1` digits. -/
def numeralChars (base : Nat) : Nat → Nat → List Char
  | 0, n => [hexDigit (n % base)]
  | fuel + 1, n =>
    if n < base then [hexDigit n]
    else numeralChars base fuel (n / base) ++ [hexDigit (n % base)]

/-- A number written in a base of at most sixteen. -/
def numeral (base n : Nat) : String :=
  String.ofList (numeralChars base n.log2 n)

/-- A text filled up with `fill` on the left to the given width. -/
def padLeft (fill : Char) (width : Nat) (s : String) : String :=
  String.ofList (List.replicate (width - s.length) fill) ++ s

/-- A text filled up with `fill` on the right to the given width. -/
def padRight (fill : Char) (width : Nat) (s : String) : String :=
  s ++ String.ofList (List.replicate (width - s.length) fill)

/-- A number in base sixteen with at least `width` digits. -/
def hex (width n : Nat) : String :=
  padLeft '0' width (numeral 16 n)

/-- The value of a digit in base sixteen, capital or small. -/
def hexValue? (c : Char) : Option Nat :=
  if '0' ≤ c && c ≤ '9' then some (c.toNat - 48)
  else if 'a' ≤ c && c ≤ 'f' then some (c.toNat - 87)
  else if 'A' ≤ c && c ≤ 'F' then some (c.toNat - 55)
  else none

/-- The number that a list of digit values denotes in a base. -/
def ofDigits (base : Nat) (ds : List Nat) : Nat :=
  ds.foldl (fun acc d => base * acc + d) 0

end CaptureConfig.Text
