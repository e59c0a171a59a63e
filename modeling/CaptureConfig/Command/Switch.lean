import CaptureConfig.Log.Level

/-!
# Switches of the command line
-/

namespace CaptureConfig.Command

/-- What a switch asks for. -/
inductive Switch where
  /-- To be told how to use the command. -/
  | help
  /-- To give an option of the connector. -/
  | set
  /-- To log from a level on. -/
  | level
  /-- To be shown the resolved settings. -/
  | resolved
deriving Repr, DecidableEq

namespace Switch

/-- The spellings of the switches, in the order in which they are offered. -/
def spellings : List (String × Switch) :=
  [("-h", .help), ("--help", .help), ("--set", .set), ("-s", .set), ("--logging-level", .level),
   ("-ll", .level), ("--show-resolved", .resolved), ("-r", .resolved)]

/-- The switch with a spelling. -/
def spelled? (text : String) : Option Switch := spellings.lookup text

/-- Whether a value follows a switch. -/
def takesValue : Switch → Bool
  | .set => true
  | .level => true
  | _ => false

/-- All spellings of a switch, with slashes between them. -/
def title (s : Switch) : String :=
  String.intercalate "/" ((spellings.filter fun (_, t) => t == s).map Prod.fst)

end Switch

/-- The names of the levels, with commas between them. -/
def levelNames : String := String.intercalate "," (Level.all.map Level.name)

/-- How the command is used, in short. -/
def usage : String :=
  "usage: relational-config [-h] [--set KEY=VALUE]\n" ++
  "                         [--logging-level \x7b" ++ levelNames ++ "\x7d]\n" ++
  "                         [--show-resolved]\n" ++
  "                         config_file\n"

/-- How the command is used. -/
def help : String :=
  usage ++
  "\nValidate and resolve relational CDC connector configuration\n" ++
  "\npositional arguments:\n" ++
  "  config_file           Path to the YAML configuration file\n" ++
  "\noptions:\n" ++
  "  -h, --help            show this help message and exit\n" ++
  "  --set KEY=VALUE, -s KEY=VALUE\n" ++
  "                        Override a connector option, e.g. --set\n" ++
  "                        decimal.handling.mode=double. May be repeated.\n" ++
  "  --logging-level \x7b" ++ levelNames ++ "\x7d, -ll \x7b" ++ levelNames ++ "\x7d\n" ++
  "                        Logging level. Acceptable values:\n" ++
  "                        " ++ levelNames ++ "\n" ++
  "  --show-resolved, -r   Print the resolved decimal mode, snapshot overrides\n" ++
  "                        and filters as JSON\n"

end CaptureConfig.Command
