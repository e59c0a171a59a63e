import CaptureConfig.Pattern.Match

/-!
# Lists of regular expressions in one option value

Entries are separated by commas. A comma after a backslash belongs to its entry, and the backslash is
dropped. White space around an entry does not count, and blank entries are left out.
-/

namespace CaptureConfig.PatternList

/-- The pieces between the commas that do not follow a backslash. The first argument tells whether the
character before the text is a backslash. -/
def pieces : Bool → List Char → List (List Char)
  | _, [] => [[]]
  | escaped, c :: cs =>
    if c = ',' ∧ escaped = false then [] :: pieces false cs
    else match pieces (c == '\\') cs with
      | [] => [[c]]
      | piece :: rest => (c :: piece) :: rest

/-- A piece without the backslashes before its commas. -/
def unescape : List Char → List Char
  | [] => []
  | '\\' :: ',' :: cs => ',' :: unescape cs
  | c :: cs => c :: unescape cs

/-- The entries of a list. -/
def entries (value : String) : List String :=
  (((pieces false value.toList).map fun piece => Text.trimChars (unescape piece)).filter
    fun entry => !entry.isEmpty).map String.ofList

/-- The regular expressions of a list, or the first entry that is refused with the reason. -/
def compile? (value : String) : Except (String × Pattern.Refusal) (List Pattern) :=
  (entries value).mapM fun entry => (Pattern.compile? entry).mapError fun refusal => (entry, refusal)

/-- Whether one of the expressions matches the whole text. -/
def matchesAny (patterns : List Pattern) (text : String) : Bool :=
  patterns.any (·.matchesAll text)

end CaptureConfig.PatternList
