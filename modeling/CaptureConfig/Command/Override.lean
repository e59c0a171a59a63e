import CaptureConfig.Assoc
import CaptureConfig.Text.Character
import CaptureConfig.Text.Split

/-!
# Options given on the command line

An option is given as its name, an equals sign and its value. White space around the name does not
count; the value is taken as it stands.
-/

namespace CaptureConfig.Command

/-- Why an item does not give an option. -/
inductive OverrideFault where
  | malformed (item : String)
deriving Repr, DecidableEq

/-- The wording of a fault. -/
def OverrideFault.message : OverrideFault → String
  | .malformed item => "Invalid property override '" ++ item ++ "', expected KEY=VALUE"

/-- The name and the value that an item gives. -/
def readOverride (item : String) : Except OverrideFault (String × String) :=
  match Text.cut? '=' item with
  | some (name, value) =>
    if Text.blank name then .error (.malformed item) else .ok (Text.trim name, value)
  | none => .error (.malformed item)

/-- The options that items give. A name that is given again keeps its place and takes its last value. -/
def readOverrides (items : List String) : Except OverrideFault (List (String × String)) :=
  (items.mapM readOverride).map Assoc.ofPairs

end CaptureConfig.Command
