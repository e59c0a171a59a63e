import CaptureConfig.Text.CharName.Letters
import CaptureConfig.Text.CharName.Others
import CaptureConfig.Text.CharName.Pictures
import CaptureConfig.Text.CharName.Signs
import CaptureConfig.Text.Hex
import CaptureConfig.Text.Split

/-!
# Characters by name

`characterNamed?` knows the characters of the tables beside this module by their Unicode names, in small
or capital letters, and unified ideographs by their numbers, in capitals only.
-/

namespace CaptureConfig.Text

namespace CharName

/-- The place of a name among names. -/
def placeIn? (name : List Char) (names : List (List Char)) : Option Nat :=
  let place := names.findIdx (· == name)
  if place < names.length then some place else none

/-- The code point of a name in a block whose rows start at a code point. -/
def inRows? (name : List Char) : Nat → List String → Option Nat
  | _, [] => none
  | first, row :: rows =>
    let names := splitChars ';' row.toList
    match placeIn? name names with
    | some place => some (first + place)
    | none => inRows? name (first + names.length) rows

/-- The code point of a further name. -/
def other? (name : List Char) : Option Nat :=
  (others.find? fun (_, names) => (splitChars ';' names.toList).contains name).map Prod.fst

/-- The first and last code points of the unified ideographs. -/
def ideographs : List (Nat × Nat) :=
  [(0x3400, 0x4DBF), (0x4E00, 0x9FFF), (0x20000, 0x2A6DF), (0x2A700, 0x2B738), (0x2B740, 0x2B81D),
   (0x2B820, 0x2CEA1), (0x2CEB0, 0x2EBE0), (0x30000, 0x3134A)]

/-- The value of a capital digit in base sixteen. -/
def capitalHexValue? (c : Char) : Option Nat :=
  if 'a' ≤ c && c ≤ 'f' then none else hexValue? c

/-- The code point of a unified ideograph, whose name ends with its number. -/
def ideograph? (name : List Char) : Option Nat := do
  let lead := "CJK UNIFIED IDEOGRAPH-".toList
  guard (lead.isPrefixOf name)
  let digits := name.drop lead.length
  guard (digits.length = 4 || digits.length = 5)
  let n := ofDigits 16 (← digits.mapM capitalHexValue?)
  guard (ideographs.any fun (first, last) => first ≤ n && n ≤ last)
  return n

end CharName

/-- The code point of the character with the given name. -/
def characterNamed? (name : String) : Option Nat :=
  let word := name.toList.map Char.toUpper
  if word.isEmpty then none
  else
    (CharName.ideograph? name.toList).orElse fun _ =>
      ((CharName.letters ++ CharName.signs ++ CharName.pictures).findSome? fun (first, rows) =>
        CharName.inRows? word first rows).orElse fun _ => CharName.other? word

end CaptureConfig.Text
