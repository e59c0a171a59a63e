import CaptureConfig.Text.Character
import CaptureConfig.Text.Spelling

/-!
# How decimal columns are represented
-/

namespace CaptureConfig

/-- The representations of decimal and numeric columns. -/
inductive DecimalMode where
  /-- Exact decimals in binary form. -/
  | precise
  /-- Texts. -/
  | string
  /-- Floating-point numbers. -/
  | double
deriving Repr, DecidableEq, Inhabited

namespace DecimalMode

/-- The modes in the order in which they are offered. -/
def all : List DecimalMode := [.precise, .string, .double]

/-- The name of a mode. -/
def name : DecimalMode → String
  | .precise => "precise"
  | .string => "string"
  | .double => "double"

/-- The mode that a text names, white space around it and case aside. -/
def named? (value : String) : Option DecimalMode :=
  let word := Text.lowered (Text.trim value)
  all.find? fun mode => mode.name == word

/-- The mode that a text names, or else the one that the default names. -/
def parse? (value default : Option String) : Option DecimalMode :=
  (value.bind named?).or (default.bind named?)

end DecimalMode

end CaptureConfig
