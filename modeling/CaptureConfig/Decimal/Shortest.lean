import CaptureConfig.Decimal.Binary64
import CaptureConfig.Text.Integer

/-!
# The shortest decimal that reads back

Of the decimals that round to a given floating-point number, `shortest` takes one with the fewest digits,
and of those the nearest. `Binary64.text` writes it positionally from `0.0001` up to sixteen digits
before the point, and with an exponent otherwise.
-/

namespace CaptureConfig.Binary64

/-- A number times a power of ten, as a numerator and a denominator. -/
def timesTen (n : Nat) (s : Int) : Nat × Nat :=
  match s with
  | .ofNat k => (n * Nat.pow 10 k, 1)
  | .negSucc k => (n, Nat.pow 10 (k + 1))

/-- Whether the first fraction is below the second. -/
def below (a b : Nat × Nat) : Bool := a.1 * b.2 < b.1 * a.2

/-- The decimals that read back as one floating-point number: an interval with the number inside. -/
structure Rounding where
  lower : Nat × Nat
  value : Nat × Nat
  upper : Nat × Nat
  /-- Whether the two ends belong to the interval. -/
  closed : Bool

namespace Rounding

/-- The interval of a positive finite number. -/
def ofFinite (m : Nat) (e : Int) : Rounding :=
  let at4 (n : Nat) : Nat × Nat :=
    match e - 2 with
    | .ofNat k => (n * Nat.pow 2 k, 1)
    | .negSucc k => (n, Nat.pow 2 (k + 1))
  let narrow := m = Nat.pow 2 52 && leastExponent < e
  { lower := at4 (if narrow then 4 * m - 1 else 4 * m - 2)
    value := at4 (4 * m)
    upper := at4 (4 * m + 2)
    closed := m % 2 == 0 }

/-- Whether a fraction lies in the interval. -/
def holds (r : Rounding) (x : Nat × Nat) : Bool :=
  if r.closed then !below x r.lower && !below r.upper x
  else below r.lower x && below x r.upper

/-- The multiple of `10 ^ s` in the interval that is nearest to the number, if there is one. -/
def onGrid? (r : Rounding) (s : Int) : Option Nat :=
  let unit := timesTen 1 s
  let floor := r.value.1 * unit.2 / (r.value.2 * unit.1)
  let lowHit := floor ≠ 0 && r.holds (timesTen floor s)
  let highHit := r.holds (timesTen (floor + 1) s)
  if lowHit && highHit then
    let twice := timesTen (2 * floor + 1) s
    let doubled := (2 * r.value.1, r.value.2)
    if below doubled twice then some floor
    else if below twice doubled then some (floor + 1)
    else some (if floor % 2 = 0 then floor else floor + 1)
  else if lowHit then some floor
  else if highHit then some (floor + 1)
  else none

/-- The first grid from `10 ^ s` downwards that meets the interval. -/
def firstHit : Nat → Rounding → Int → Nat × Int
  | 0, _, s => (0, s)
  | n + 1, r, s =>
    match r.onGrid? s with
    | some c => (c, s)
    | none => firstHit n r (s - 1)

end Rounding

/-- The digits of a positive finite number, and the power of ten of the last of them. -/
def shortest (m : Nat) (e : Int) : Nat × Int :=
  let bits : Int := m.log2 + e
  let tens : Int := bits * 30103 / 100000
  Rounding.firstHit 24 (.ofFinite m e) (tens + 3)

/-- Digits with a point and without an exponent: `point` is the number of digits before it. -/
def positional (digits : List Char) (point : Int) : List Char :=
  if point ≤ 0 then
    '0' :: '.' :: (List.replicate (-point).toNat '0' ++ digits)
  else
    let n := point.toNat
    if digits.length ≤ n then digits ++ List.replicate (n - digits.length) '0' ++ ['.', '0']
    else digits.take n ++ '.' :: digits.drop n

/-- An exponent of at least two digits, with its sign. -/
def exponentMark (e : Int) : List Char :=
  let digits := Text.decimalChars e.natAbs
  'e' :: (if e < 0 then '-' else '+') :: if digits.length < 2 then '0' :: digits else digits

/-- Digits with one of them before the point, and an exponent. -/
def scientific (digits : List Char) (point : Int) : List Char :=
  let front := match digits with
    | [] => []
    | [d] => [d]
    | d :: ds => d :: '.' :: ds
  front ++ exponentMark (point - 1)

/-- A floating-point number as text. -/
def text : Binary64 → String
  | .nan => "nan"
  | .infinity false => "inf"
  | .infinity true => "-inf"
  | .finite negative m e =>
    let body :=
      if m = 0 then ['0', '.', '0']
      else
        let (n, s) := shortest m e
        let digits := Text.decimalChars n
        let point := s + digits.length
        if -4 < point && point ≤ 16 then positional digits point else scientific digits point
    String.ofList (if negative then '-' :: body else body)

end CaptureConfig.Binary64
