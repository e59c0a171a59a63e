import CaptureConfig.Text.Hex
import CaptureConfig.Text.Integer

/-!
# Text files in UTF-8

A file is decoded in chunks of 8192 bytes; the bytes of a character that a chunk leaves unfinished are
put before the next one. Faults are placed from the start of the bytes that are decoded together. Every
kind of line end is read as a line feed.
-/

namespace CaptureConfig.Text

/-- Why bytes are not UTF-8. -/
inductive Utf8Reason where
  | badStart
  | badContinuation
  | unfinished
deriving Repr, DecidableEq

/-- Bytes that are not UTF-8, by the place of the first of them. -/
structure Utf8Fault where
  byte : UInt8
  place : Nat
  count : Nat
  reason : Utf8Reason
deriving Repr, DecidableEq

/-- The wording of a fault. -/
def Utf8Fault.message (f : Utf8Fault) : String :=
  let reason := match f.reason with
    | .badStart => "invalid start byte"
    | .badContinuation => "invalid continuation byte"
    | .unfinished => "unexpected end of data"
  if f.count = 1 then
    "'utf-8' codec can't decode byte 0x" ++ hex 2 f.byte.toNat ++ " in position " ++
      showNat f.place ++ ": " ++ reason
  else
    "'utf-8' codec can't decode bytes in position " ++ showNat f.place ++ "-" ++
      showNat (f.place + f.count - 1) ++ ": " ++ reason

/-- Bytes that go on a character. -/
def isContinuation (b : UInt8) : Bool := 0x80 ≤ b && b < 0xC0

/-- The bits that a continuation byte adds to a code point. -/
def continued (acc : Nat) (b : UInt8) : Nat := acc * 64 + (b.toNat - 0x80)

/-- Whether a byte may come second after the given first byte: overlong forms, surrogates and code
points beyond the last one are excluded. -/
def isSecond (first second : UInt8) : Bool :=
  isContinuation second &&
    !(first == 0xE0 && second < 0xA0) && !(first == 0xED && 0xA0 ≤ second) &&
    !(first == 0xF0 && second < 0x90) && !(first == 0xF4 && 0x90 ≤ second)

/-- What the first bytes of a list are. -/
inductive Utf8Head where
  | char (c : Char) (length : Nat)
  | bad (length : Nat) (reason : Utf8Reason)
  | unfinished (length : Nat)

/-- The character of which the first byte is given, with the bytes after it. -/
def utf8Head (first : UInt8) (rest : List UInt8) : Utf8Head :=
  let n := first.toNat
  if n < 0x80 then .char (Char.ofNat n) 1
  else if n < 0xC2 || 0xF4 < n then .bad 1 .badStart
  else
    match rest with
    | [] => .unfinished 1
    | b :: rest =>
      if !isSecond first b then .bad 1 .badContinuation
      else if n < 0xE0 then .char (Char.ofNat (continued (n - 0xC0) b)) 2
      else
        match rest with
        | [] => .unfinished 2
        | c :: rest =>
          if !isContinuation c then .bad 2 .badContinuation
          else if n < 0xF0 then .char (Char.ofNat (continued (continued (n - 0xE0) b) c)) 3
          else
            match rest with
            | [] => .unfinished 3
            | d :: _ =>
              if !isContinuation d then .bad 3 .badContinuation
              else .char (Char.ofNat (continued (continued (continued (n - 0xF0) b) c) d)) 4

/-- The characters of bytes, newest first, with the bytes of an unfinished character at the end. The
first argument bounds the number of characters. -/
def decodeFrom : Nat → Nat → List Char → List UInt8 → Except Utf8Fault (List Char × List UInt8)
  | 0, _, found, bytes => .ok (found, bytes)
  | _ + 1, _, found, [] => .ok (found, [])
  | n + 1, place, found, b :: rest =>
    match utf8Head b rest with
    | .char c length => decodeFrom n (place + length) (c :: found) (rest.drop (length - 1))
    | .bad count reason => .error ⟨b, place, count, reason⟩
    | .unfinished _ => .ok (found, b :: rest)

/-- The characters of a file, newest first, after those found in earlier chunks. -/
def decodeChunks : Nat → List Char → List UInt8 → List UInt8 → Except Utf8Fault (List Char)
  | 0, found, _, _ => .ok found
  | n + 1, found, left, bytes =>
    if bytes.isEmpty then
      match left with
      | [] => .ok found
      | b :: rest => .error ⟨b, 0, rest.length + 1, .unfinished⟩
    else do
      let together := left ++ bytes.take 8192
      let (found, left) ← decodeFrom together.length 0 found together
      decodeChunks n found left (bytes.drop 8192)

/-- The characters of a file. -/
def decodeFile (bytes : List UInt8) : Except Utf8Fault (List Char) :=
  (decodeChunks (bytes.length / 8192 + 2) [] [] bytes).map List.reverse

/-- The characters of bytes that are decoded together. -/
def decodeWhole (bytes : List UInt8) : Except Utf8Fault (List Char) := do
  let (found, left) ← decodeFrom bytes.length 0 [] bytes
  match left with
  | [] => return found.reverse
  | b :: rest => throw ⟨b, bytes.length - left.length, rest.length + 1, .unfinished⟩

/-- Characters with every kind of line end written as a line feed. -/
def unixLines : List Char → List Char
  | [] => []
  | '\r' :: '\n' :: cs => '\n' :: unixLines cs
  | '\r' :: cs => '\n' :: unixLines cs
  | c :: cs => c :: unixLines cs

/-- The text that bytes stand for, if they are UTF-8. -/
def ofUtf8? (bytes : List UInt8) : Option String :=
  match decodeWhole bytes with
  | .ok cs => some (String.ofList cs)
  | .error _ => none

end CaptureConfig.Text
