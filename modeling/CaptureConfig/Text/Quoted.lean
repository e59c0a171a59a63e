import CaptureConfig.Text.Hex
import CaptureConfig.Text.Printable

/-!
# Quoted texts

A text is shown between single quotes, or between double quotes when it holds single quotes only.
The quote in use, the backslash and the characters that are not printable are escaped.
-/

namespace CaptureConfig.Text

/-- The quote that needs the fewer escapes, the single quote when both are even. -/
def quoteFor (cs : List Char) : Char :=
  if cs.contains '\'' && !cs.contains '"' then '"' else '\''

/-- The escape of a character by its number. -/
def escapeCode (n : Nat) : String :=
  if n < 0x100 then "\\x" ++ hex 2 n
  else if n < 0x10000 then "\\u" ++ hex 4 n
  else "\\U" ++ hex 8 n

/-- One character inside the given quotes. -/
def quoteChar (quote c : Char) : String :=
  if c == quote || c == '\\' then String.ofList ['\\', c]
  else if c == '\n' then "\\n"
  else if c == '\r' then "\\r"
  else if c == '\t' then "\\t"
  else if isPrintable c then c.toString
  else escapeCode c.toNat

/-- The text between quotes, with escapes. -/
def quoted (s : String) : String :=
  let quote := quoteFor s.toList
  quote.toString ++ String.join (s.toList.map (quoteChar quote)) ++ quote.toString

end CaptureConfig.Text
