import CaptureConfig.Disk.Basic
import CaptureConfig.Log.Notice
import CaptureConfig.Log.Record

/-!
# Logs

A log has a threshold and targets. It is set up from logging settings: the console always becomes a
target, and a file as well if the settings name one. Until it is set up, it leaves its threshold to its
surroundings and hands its records on to their targets. Where a record reaches no target at all, its message
goes to the console without further ado from warnings on.
-/

namespace CaptureConfig

/-- Where the lines of a log go, and in which form. -/
inductive LogTarget where
  | console (format : LogFormat)
  | file (format : LogFormat) (path : Path)
deriving Repr, DecidableEq

/-- What surrounds a log: the severity from which records are written if the log does not say, and the targets
of the records that the log hands on. -/
structure Surroundings where
  threshold : Nat := Level.warning.number
  targets : List LogTarget := []
deriving Repr, DecidableEq, Inhabited

/-- A log. -/
structure Logger where
  name : String := "relational_config"
  /-- The severity from which records are written; nought leaves it to the surroundings. -/
  threshold : Nat := 0
  /-- Whether records are handed on to the surroundings. -/
  handsOn : Bool := true
  targets : List LogTarget := []
  surroundings : Surroundings := {}
deriving Repr, DecidableEq, Inhabited

/-- Why a record cannot be made: a detail has the name of an attribute that every record has. -/
inductive LogFault where
  | reservedDetail (name : String)
deriving Repr, DecidableEq

/-- The wording of a fault. -/
def LogFault.message : LogFault → String
  | .reservedDetail name =>
    Text.quoted ("Attempt to overwrite " ++ Text.quoted name ++ " in LogRecord")

namespace LoggingSettings

/-- The level of the settings. -/
def threshold (s : LoggingSettings) : Level := (Level.named? s.level).getD .info

/-- The form of log lines. -/
def form (s : LoggingSettings) : LogFormat :=
  if s.format = LogFormat.json.name then .json else .text

/-- The file of the settings, if they ask for one. -/
def file? (s : LoggingSettings) : Option Path :=
  match s.filePath with
  | some path => if s.toFile && path != "" then some (.ofText path) else none
  | none => none

end LoggingSettings

namespace Logger

/-- What comes of setting up a log: with a fault, the console alone is a target. -/
structure Setup where
  logger : Logger
  disk : Disk
  fault : Option DiskFault := none

/-- The log with the console as its only target. -/
def onConsole (l : Logger) (s : LoggingSettings) : Logger :=
  { l with threshold := s.threshold.number, handsOn := false, targets := [.console s.form] }

/-- The disk on which a log file and the directories that lead to it have been made. The directories are
made as the path names them, and stay when the file cannot be opened. -/
def openFile (path : Path) (d : Disk) : Except (DiskFault × Disk) Disk := do
  let d ← d.ensureDirectories path.root path.parent.parts.reverse
  (d.append path.plain []).mapError fun fault => (fault, d)

/-- Sets a log up. -/
def setUp (l : Logger) (s : LoggingSettings) (d : Disk) : Setup :=
  let ready := l.onConsole s
  match s.file? with
  | none => ⟨ready, d, none⟩
  | some path =>
    match openFile path d with
    | .error (fault, d') => ⟨ready, d', some fault⟩
    | .ok d' => ⟨{ ready with targets := ready.targets ++ [.file s.form path.plain] }, d', none⟩

/-- Whether records of a severity are written. -/
def admits (l : Logger) (severity : Nat) : Bool :=
  (if l.threshold = 0 then l.surroundings.threshold else l.threshold) ≤ severity

/-- The attributes that every record has. -/
def attributes : List String :=
  ["message", "asctime", "name", "msg", "args", "levelname", "levelno", "pathname", "filename", "module",
   "exc_info", "exc_text", "stack_info", "lineno", "funcName", "created", "msecs", "relativeCreated",
   "thread", "threadName", "processName", "process"]

/-- The record that a notice makes in a log. If its text and its arguments made no message, the record would say
why, but a notice has no arguments. -/
def recordOf (l : Logger) (now : Instant) (n : Notice) : LogRecord where
  log := l.name
  severity := n.level.number
  message := match LogRecord.messageOf n.message [] with
    | .ok message => message
    | .error fault => fault.message
  time := now
  origin := "logger"
  function := n.origin
  line := n.line
  details := n.details

/-- The targets that the records of a log reach: its own, and those of its surroundings if it hands them on. -/
def reach (l : Logger) : List LogTarget :=
  if l.handsOn then l.targets ++ l.surroundings.targets else l.targets

/-- Writes a record to one target. -/
def writeTo (r : LogRecord) (written : String × Disk) : LogTarget → String × Disk
  | .console format => (written.1 ++ r.lineIn format ++ "\n", written.2)
  | .file format path =>
    let line := (r.lineIn format ++ "\n").toUTF8.toList
    match written.2.append path line with
    | .ok d => (written.1, d)
    | .error _ => written

/-- Writes a record to all targets that it reaches; without any, a severe record goes to the console. -/
def write (l : Logger) (r : LogRecord) (d : Disk) : String × Disk :=
  if l.reach.isEmpty then
    ((if (Level.warning.number : Int) ≤ r.severity then r.message ++ "\n" else ""), d)
  else l.reach.foldl (writeTo r) ("", d)

/-- Logs a notice: gives what is written to the console, and the disk afterwards. -/
def log (l : Logger) (now : Instant) (n : Notice) (d : Disk) : Except LogFault (String × Disk) :=
  if l.admits n.level.number then
    match n.details.find? fun (name, _) => attributes.contains name with
    | some (name, _) => .error (.reservedDetail name)
    | none => .ok (l.write (l.recordOf now n) d)
  else .ok ("", d)

/-- Logs notices one after another. -/
def logAll (l : Logger) (now : Instant) : List Notice → Disk → Except LogFault (String × Disk)
  | [], d => .ok ("", d)
  | n :: ns, d => do
    let (first, d) ← l.log now n d
    let (rest, d) ← l.logAll now ns d
    return (first ++ rest, d)

end Logger

end CaptureConfig
