import CaptureConfig.Text.Integer
import CaptureConfig.Yaml.Token.Name

/-!
# Directives

A directive stands on a line of its own that begins with a percent sign. It gives the version of a
document or declares a handle of tags; any other is passed over.
-/

namespace CaptureConfig.Yaml.Scanner

/-- What is going on in a directive. -/
def inDirective : Activity := .scanning "a directive"

/-- Passes over the rest of a line, which may hold a remark only. -/
def finishLine (activity : Activity) (start : Mark) : Scanner Unit := do
  skipWhile (· == ' ')
  skipRemark
  if endsLine (← peek) then let _ ← takeBreak
  else expected activity start "a comment or a line break"

/-- The name of a directive. -/
def directiveName (start : Mark) : Scanner String := do
  let wanted := "alphabetic or numeric character"
  let found ← takeWhile isNameChar
  if found.isEmpty then expected inDirective start wanted
  if endsWord (← peek) then return String.ofList found
  else expected inDirective start wanted

/-- A part of a version. -/
def versionNumber (start : Mark) : Scanner Nat := do
  let digits ← takeWhile fun c => '0' ≤ c && c ≤ '9'
  if digits.isEmpty then expected inDirective start "a digit"
  return Text.ofDecimal (digits.map fun c => c.toNat - 48)

/-- A version. -/
def version (start : Mark) : Scanner TokenKind := do
  skipWhile (· == ' ')
  let major ← versionNumber start
  if (← peek) != '.' then expected inDirective start "a digit or '.'"
  skip
  let minor ← versionNumber start
  if endsWord (← peek) then return .version major minor
  else expected inDirective start "a digit or ' '"

/-- The declaration of a handle. -/
def handleDeclaration (start : Mark) : Scanner TokenKind := do
  skipWhile (· == ' ')
  let handle ← tagHandle "directive" start
  if (← peek) != ' ' then expected inDirective start "' '"
  skipWhile (· == ' ')
  let lead ← tagText "directive" start
  if endsWord (← peek) then return .handle handle lead
  else expected inDirective start "' '"

/-- A directive. -/
def takeDirective : Scanner Token := do
  let start ← mark
  let found ← token fun start => do
    skip
    let name ← directiveName start
    if name = "YAML" then version start
    else if name = "TAG" then handleDeclaration start
    else return .otherDirective
  if found.kind = .otherDirective then skipWhile fun c => !endsLine c
  finishLine inDirective start
  return found

end CaptureConfig.Yaml.Scanner
