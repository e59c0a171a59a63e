import CaptureConfig.Text.Integer

/-!
# Bytes written in base 64

Four characters carry three bytes. Characters outside of the alphabet are passed over; one or two equals
signs end a text whose last group is not full.
-/

namespace CaptureConfig.Text

/-- Why a text is not in base 64. -/
inductive Base64Fault where
  | lonelyCharacter (count : Nat)
  | padding
deriving Repr, DecidableEq

/-- The wording of a fault. -/
def Base64Fault.message : Base64Fault → String
  | .lonelyCharacter count =>
    "Invalid base64-encoded string: number of data characters (" ++ showNat count ++
      ") cannot be 1 more than a multiple of 4"
  | .padding => "Incorrect padding"

/-- The six bits that a character carries. -/
def sixBits? (c : Char) : Option Nat :=
  let n := c.toNat
  if 'A' ≤ c && c ≤ 'Z' then some (n - 65)
  else if 'a' ≤ c && c ≤ 'z' then some (n - 71)
  else if '0' ≤ c && c ≤ '9' then some (n + 4)
  else if c == '+' then some 62
  else if c == '/' then some 63
  else none

/-- The bits of the last group that is not full: their number divided by six, and the number that they
make together. -/
structure Base64Rest where
  groups : Nat := 0
  bits : Nat := 0
  /-- The number of equals signs since the last character. -/
  pads : Nat := 0

/-- The bytes of a text, newest first, after those found so far. -/
def base64From : Base64Rest → List UInt8 → List Char → Except Base64Fault (List UInt8)
  | rest, found, [] =>
    if rest.groups = 0 then .ok found
    else if rest.groups = 1 then .error (.lonelyCharacter (found.length / 3 * 4 + 1))
    else .error .padding
  | rest, found, c :: cs =>
    if c == '=' then
      if 2 ≤ rest.groups && 4 ≤ rest.groups + rest.pads + 1 then .ok found
      else base64From
        { rest with pads := if 2 ≤ rest.groups then rest.pads + 1 else rest.pads } found cs
    else match sixBits? c with
      | none => base64From rest found cs
      | some n =>
        let all := rest.bits * 64 + n
        match rest.groups with
        | 0 => base64From ⟨1, n, 0⟩ found cs
        | 1 => base64From ⟨2, all % 16, 0⟩ ((all / 16).toUInt8 :: found) cs
        | 2 => base64From ⟨3, all % 4, 0⟩ ((all / 4).toUInt8 :: found) cs
        | _ => base64From {} (all.toUInt8 :: found) cs

/-- The bytes that a text carries. -/
def ofBase64 (cs : List Char) : Except Base64Fault (List UInt8) :=
  (base64From {} [] cs).map List.reverse

end CaptureConfig.Text
