import CaptureConfig.Decimal.Binary64
import CaptureConfig.Text.Integer
import CaptureConfig.Text.Spelling

/-!
# Reading floating-point numbers

A numeral is a sign, digits with an optional point, and an optional exponent; digits may be separated by
single underscores. The names of infinity and of the undefined number are read as well. The value is the
floating-point number nearest to the one written.
-/

namespace CaptureConfig.Binary64

/-- The number nearest to `digits * 10 ^ exponent`. -/
def ofDecimal (negative : Bool) (digits : Nat) (exponent : Int) : Binary64 :=
  let length : Int := digits.log2 / 3 + 1
  if digits = 0 then zero negative
  else if 400 < exponent then .infinity negative
  else if exponent + length < -400 then zero negative
  else
    match exponent with
    | .ofNat k => ofRatio negative (digits * Nat.pow 10 k) 1
    | .negSucc k => ofRatio negative digits (Nat.pow 10 (k + 1))

/-- The digit values of a part of a numeral, which may be empty. -/
def partDigits? (cs : List Char) : Option (List Nat) :=
  if cs.isEmpty then some [] else Text.digitsOf? cs

/-- An exponent with its sign. -/
def exponent? (cs : List Char) : Option Int :=
  let (negative, rest) := Text.takeSign cs
  (Text.digitsOf? rest).map fun ds =>
    let n : Int := Text.ofDecimal ds
    if negative then -n else n

/-- The number that an unsigned numeral denotes. -/
def unsigned? (negative : Bool) (cs : List Char) : Option Binary64 := do
  let (front, tail) := cs.span fun c => c != 'e' && c != 'E'
  let e ← match tail with
    | [] => some 0
    | _ :: digits => exponent? digits
  let (whole, rest) := front.span (· != '.')
  let fraction := rest.drop 1
  guard (!whole.isEmpty || !fraction.isEmpty)
  let ws ← partDigits? whole
  let fs ← partDigits? fraction
  return ofDecimal negative (Text.ofDecimal (ws ++ fs)) (e - fs.length)

/-- The number that a text denotes. -/
def ofText? (s : String) : Option Binary64 :=
  let (negative, rest) := Text.takeSign (Text.trimChars s.toList)
  let word := Text.lowered (String.ofList rest)
  if word = "nan" then some .nan
  else if word = "inf" || word = "infinity" then some (.infinity negative)
  else unsigned? negative rest

end CaptureConfig.Binary64
