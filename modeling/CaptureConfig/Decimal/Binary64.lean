/-!
# Binary floating-point numbers of 64 bits

A finite number is kept as a sign, a mantissa below `2 ^ 53` and an exponent of two that is not below
`-1074`; the mantissa is at least `2 ^ 52` unless the exponent is `-1074`. `ofRatio` rounds an exact
fraction to the nearest number, a tie going to the even mantissa.
-/

namespace CaptureConfig

/-- A floating-point number. -/
inductive Binary64 where
  | nan
  | infinity (negative : Bool)
  | finite (negative : Bool) (mantissa : Nat) (exponent : Int)
deriving Repr, DecidableEq, Inhabited

namespace Binary64

/-- The least exponent. -/
def leastExponent : Int := -1074

/-- The greatest exponent. -/
def greatestExponent : Int := 971

/-- Zero of either sign. -/
def zero (negative : Bool) : Binary64 := .finite negative 0 leastExponent

/-- The quotient rounded to the nearest integer, a tie going to the even one. -/
def divideToEven (num den : Nat) : Nat :=
  let q := num / den
  let r := num % den
  if 2 * r < den then q
  else if den < 2 * r then q + 1
  else if q % 2 = 0 then q else q + 1

/-- The fraction `num / den` divided by `2 ^ e`, as a numerator and a denominator. -/
def scale (num den : Nat) (e : Int) : Nat × Nat :=
  match e with
  | .ofNat k => (num, den * Nat.pow 2 k)
  | .negSucc k => (num * Nat.pow 2 (k + 1), den)

/-- The floating-point number nearest to `num / den`. -/
def ofRatio (negative : Bool) (num den : Nat) : Binary64 :=
  if num = 0 then zero negative
  else
    let guess : Int := (num.log2 : Int) - den.log2 - 52
    let (n, d) := scale num den guess
    let e := max leastExponent (if n / d < Nat.pow 2 52 then guess - 1 else guess)
    let (n, d) := scale num den e
    let m := divideToEven n d
    let (m, e) := if m = Nat.pow 2 53 then (Nat.pow 2 52, e + 1) else (m, e)
    if greatestExponent < e then .infinity negative else .finite negative m e

/-- Whether the number is neither nought nor undefined to a test of truth. -/
def isTrue : Binary64 → Bool
  | .finite _ 0 _ => false
  | _ => true

/-- The value of a finite number times `2 ^ 1074`, with its sign. -/
def scaledValue? : Binary64 → Option Int
  | .finite negative m e =>
    let v : Int := (m * Nat.pow 2 (e - leastExponent).toNat : Nat)
    some (if negative then -v else v)
  | _ => none

/-- The integer that a number is equal to. -/
def toInt? (x : Binary64) : Option Int :=
  match x.scaledValue? with
  | some v => if v % Int.pow 2 1074 = 0 then some (v / Int.pow 2 1074) else none
  | none => none

/-- Whether two numbers compare equal; nothing is equal to an undefined number. -/
def same (x y : Binary64) : Bool :=
  match x, y with
  | .infinity a, .infinity b => a == b
  | .finite _ _ _, .finite _ _ _ => x.scaledValue? == y.scaledValue?
  | _, _ => false

/-- The number nearest to an integer. -/
def ofInt (i : Int) : Binary64 := ofRatio (i < 0) i.natAbs 1

/-- The number nearest to a value given times `2 ^ 1074`; a zero takes the given sign. -/
def ofScaled (negativeZero : Bool) (v : Int) : Binary64 :=
  ofRatio (if v = 0 then negativeZero else v < 0) v.natAbs (Nat.pow 2 1074)

/-- The number nearest to the product with an integer. -/
def times (x : Binary64) (i : Int) : Binary64 :=
  match x with
  | .finite negative _ _ =>
    match x.scaledValue? with
    | some v => ofScaled (negative != decide (i < 0)) (v * i)
    | none => .nan
  | .infinity negative => if i = 0 then .nan else .infinity (negative != decide (i < 0))
  | .nan => .nan

/-- The number nearest to the sum. -/
def plus (x y : Binary64) : Binary64 :=
  match x, y with
  | .finite a _ _, .finite b _ _ =>
    match x.scaledValue?, y.scaledValue? with
    | some v, some w => ofScaled (a && b) (v + w)
    | _, _ => .nan
  | .infinity a, .infinity b => if a = b then .infinity a else .nan
  | .infinity a, .finite _ _ _ => .infinity a
  | .finite _ _ _, .infinity b => .infinity b
  | _, _ => .nan

/-- The number with the other sign. -/
def negate : Binary64 → Binary64
  | .nan => .nan
  | .infinity negative => .infinity !negative
  | .finite negative m e => .finite (!negative) m e

end Binary64

end CaptureConfig
