/-!
# Words spelled without regard to case

An option word such as `true` or `INFO` is recognised in any mixture of capital and small letters. The
words are ASCII, so it is enough to know which letters have an ASCII letter as their small letter or as
their capitals: besides the ASCII letters themselves these are the Kelvin sign, and the dotless i, the
long s, the sharp s and the ligatures of f and s.
-/

namespace CaptureConfig.Text

/-- The small letter of a letter where that is ASCII; any other character stays as it is. -/
def smallLetter (c : Char) : Char :=
  if 'A' ≤ c && c ≤ 'Z' then Char.ofNat (c.toNat + 32)
  else if c == '\u212a' then 'k'
  else c

/-- The capitals of a letter where they are ASCII; any other character stays as it is. -/
def capitals (c : Char) : List Char :=
  if 'a' ≤ c && c ≤ 'z' then [Char.ofNat (c.toNat - 32)]
  else match c.toNat with
    | 0x00df => ['S', 'S']
    | 0x0131 => ['I']
    | 0x017f => ['S']
    | 0xfb00 => ['F', 'F']
    | 0xfb01 => ['F', 'I']
    | 0xfb02 => ['F', 'L']
    | 0xfb03 => ['F', 'F', 'I']
    | 0xfb04 => ['F', 'F', 'L']
    | 0xfb05 => ['S', 'T']
    | 0xfb06 => ['S', 'T']
    | _ => [c]

/-- A word in small letters. -/
def lowered (s : String) : String :=
  String.ofList (s.toList.map smallLetter)

/-- A word in capitals. -/
def capitalised (s : String) : String :=
  String.ofList (s.toList.flatMap capitals)

end CaptureConfig.Text
