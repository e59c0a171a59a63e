import CaptureConfig.Decimal.Shortest

/-!
# Decimals of a given length

A floating-point number is written with a given number of places after the point, with or without an
exponent, or with a given number of digits in the form that suits its size. The exact value is rounded to
the nearest decimal of that length, a tie going to the even digit.
-/

namespace CaptureConfig

/-- The form of a decimal. -/
inductive DecimalForm where
  /-- A number of places after the point. -/
  | fixed
  /-- One digit before the point, a number of places after it, and an exponent. -/
  | exponent
  /-- A number of digits: without an exponent from `-4` up to that number, and with one otherwise. -/
  | general
deriving Repr, DecidableEq

namespace Binary64

/-- The size of a finite number as a fraction. -/
def fraction (m : Nat) (e : Int) : Nat × Nat :=
  match e with
  | .ofNat k => (m * Nat.pow 2 k, 1)
  | .negSucc k => (m, Nat.pow 2 (k + 1))

/-- A fraction times `10 ^ s`, rounded to the nearest integer. -/
def roundedTimesTen (x : Nat × Nat) (s : Int) : Nat :=
  let (n, d) := timesTen x.1 s
  divideToEven n (d * x.2)

/-- The greatest power of ten that is not above a positive finite number: that of its shortest decimal,
unless this one is above the number. -/
def leadingPower (m : Nat) (e : Int) : Int :=
  let (n, s) := shortest m e
  let power := s + (Text.decimalChars n).length - 1
  if below (fraction m e) (timesTen 1 power) then power - 1 else power

/-- The leading digits of a finite number, one more than given, and the power of ten of the first. -/
def leadingDigits (m : Nat) (e : Int) (more : Nat) : List Char × Int :=
  if m = 0 then (List.replicate (more + 1) '0', 0)
  else
    let power := leadingPower m e
    let n := roundedTimesTen (fraction m e) (more - power)
    if n = Nat.pow 10 (more + 1) then (Text.decimalChars (Nat.pow 10 more), power + 1)
    else (Text.decimalChars n, power)

/-- A decimal without a point at its end, unless it is kept. -/
def joinPoint (keepsPoint : Bool) (front places : List Char) : List Char :=
  if places.isEmpty && !keepsPoint then front else front ++ '.' :: places

/-- The size of a finite number with a number of places after the point. -/
def fixedText (keepsPoint : Bool) (m : Nat) (e : Int) (places : Nat) : List Char :=
  let digits := Text.decimalChars (roundedTimesTen (fraction m e) places)
  let filled := List.replicate (places + 1 - digits.length) '0' ++ digits
  joinPoint keepsPoint (filled.take (filled.length - places)) (filled.drop (filled.length - places))

/-- Digits without the noughts at their end. -/
def trimNoughts (digits : List Char) : List Char := (digits.reverse.dropWhile (· == '0')).reverse

/-- The size of a finite number with a number of digits. Noughts after the point are kept if the point
is. -/
def generalText (keepsPoint : Bool) (m : Nat) (e : Int) (count : Nat) : List Char :=
  let (digits, power) := leadingDigits m e (count - 1)
  let trim (places : List Char) := if keepsPoint then places else trimNoughts places
  if power < -4 || count ≤ power then
    joinPoint keepsPoint (digits.take 1) (trim (digits.drop 1)) ++ exponentMark power
  else if power < 0 then
    joinPoint keepsPoint ['0'] (trim (List.replicate (-power - 1).toNat '0' ++ digits))
  else
    let front := power.toNat + 1
    joinPoint keepsPoint (digits.take front) (trim (digits.drop front))

/-- The size of a number in a form, with a number of places or digits. -/
def sizeIn (form : DecimalForm) (keepsPoint : Bool) (length : Nat) : Binary64 → String
  | .nan => "nan"
  | .infinity _ => "inf"
  | .finite _ m e =>
    String.ofList (match form with
      | .fixed => fixedText keepsPoint m e length
      | .exponent =>
        let (digits, power) := leadingDigits m e length
        joinPoint keepsPoint (digits.take 1) (digits.drop 1) ++ exponentMark power
      | .general => generalText keepsPoint m e (max length 1))

/-- Whether a number is written with a minus sign. -/
def isNegative : Binary64 → Bool
  | .finite negative _ _ => negative
  | .infinity negative => negative
  | .nan => false

end Binary64

end CaptureConfig
