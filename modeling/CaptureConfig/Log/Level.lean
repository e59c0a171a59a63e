import CaptureConfig.Text.Integer
import CaptureConfig.Text.Spelling

/-!
# Levels of log records
-/

namespace CaptureConfig

/-- The named levels, from the least to the most severe. -/
inductive Level where
  | debug
  | info
  | warning
  | error
  | critical
deriving Repr, DecidableEq, Inhabited

namespace Level

/-- The levels in order. -/
def all : List Level := [.debug, .info, .warning, .error, .critical]

/-- The severity of a level. -/
def number : Level → Nat
  | .debug => 10
  | .info => 20
  | .warning => 30
  | .error => 40
  | .critical => 50

/-- The name of a level in capitals. -/
def name : Level → String
  | .debug => "DEBUG"
  | .info => "INFO"
  | .warning => "WARNING"
  | .error => "ERROR"
  | .critical => "CRITICAL"

/-- The level that a text names when its letters are written as capitals. -/
def named? (text : String) : Option Level :=
  all.find? fun level => level.name == Text.capitalised text

/-- The name of a severity, which need not be that of a level. -/
def nameOfNumber (n : Int) : String :=
  match all.find? fun level => (level.number : Int) == n with
  | some level => level.name
  | none => if n = 0 then "NOTSET" else "Level " ++ Text.showInteger n

end Level

end CaptureConfig
