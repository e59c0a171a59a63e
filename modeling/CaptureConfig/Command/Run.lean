import CaptureConfig.Command.Arguments
import CaptureConfig.Command.Override
import CaptureConfig.Connector.Description
import CaptureConfig.Log.Logger
import CaptureConfig.Settings.File

/-!
# A run of the command

A run loads the settings from a file, builds the connector that they describe, checks it, and shows its
resolved settings if asked to. What it prints, logs and writes is part of its result.
-/

namespace CaptureConfig.Command

/-- Why a run breaks off without an exit code. -/
inductive Escape where
  | file (fault : FileFault)
  | disk (fault : DiskFault)
  | log (fault : LogFault)
  | connector (fault : Fault)
deriving Repr, DecidableEq

/-- The wording of an escape. -/
def Escape.message : Escape → String
  | .file fault => fault.message
  | .disk fault => fault.message
  | .log fault => fault.message
  | .connector fault => fault.message

/-- What a run works on: the texts printed so far and the disk. -/
structure Console where
  out : String := ""
  err : String := ""
  disk : Disk

/-- A step of a run. -/
abbrev Run := ExceptT Escape (StateM Console)

namespace Run

/-- Prints a text. -/
def print (s : String) : Run Unit := modify fun c => { c with out := c.out ++ s }

/-- Prints a line about an error. -/
def complain (s : String) : Run Unit := modify fun c => { c with err := c.err ++ s ++ "\n" }

/-- Logs notices. -/
def report (l : Logger) (now : Instant) (notices : List Notice) : Run Unit := do
  match l.logAll now notices (← get).disk with
  | .error fault => throw (.log fault)
  | .ok (written, disk) => modify fun c => { c with err := c.err ++ written, disk }

/-- Logs a message. -/
def inform (l : Logger) (now : Instant) (level : Level) (message : String) : Run Unit :=
  report l now [.plain level message]

end Run

/-- Whether a fault of a file is one of its configuration, which is reported and not an escape. -/
def isConfigurationFault : FileFault → Bool
  | .missing _ => true
  | .unreadable _ => true
  | .document _ fault => fault.isFormal
  | .empty _ => true
  | .settings .notMapping => true
  | .settings (.record (.invalid _)) => true
  | _ => false

/-- Whether a fault of a connector is reported and not an escape. -/
def isReported : Fault → Bool
  | .option _ => true
  | .table _ => true
  | .pattern _ _ => false

/-- Ends a run with a line about a fault. -/
def endWith (fault : Fault) : Run Nat := do
  if isReported fault then
    Run.complain ("Configuration error: " ++ fault.message)
    return 1
  else throw (.connector fault)

/-- Sets the log up. -/
def openLog (s : LoggingSettings) : Run Logger := do
  let setup := Logger.setUp {} s (← get).disk
  modify fun c => { c with disk := setup.disk }
  match setup.fault with
  | some fault => throw (.disk fault)
  | none => return setup.logger

/-- Shows the resolved settings of a connector. -/
def showResolved (l : Logger) (now : Instant) (c : Connector) : Run Nat := do
  let resolved := c.resolve
  Run.report l now resolved.notices
  match resolved.outcome with
  | .error fault => endWith fault
  | .ok r =>
    Run.print (r.toJson.pretty ++ "\n")
    return 0

/-- Checks a connector, and shows its resolved settings if asked to. -/
def check (l : Logger) (now : Instant) (c : Connector) (showsResolved : Bool) : Run Nat := do
  let checked := c.validate
  Run.report l now checked.notices
  match checked.outcome with
  | .error fault => throw (.connector fault)
  | .ok problems =>
    for p in problems do Run.print (p.text ++ "\n")
    if problems.isEmpty then
      Run.inform l now .info "Configuration validation completed successfully"
      if showsResolved then showResolved l now c else return 0
    else
      Run.inform l now .error
        ("Configuration has " ++ Text.showNat problems.length ++ " validation problem(s)")
      return 1

/-- The name of a connector: that of its server if it has one, and otherwise that of its file. -/
def connectorName (o : Options) (path : Path) : String :=
  match o.get? OptionName.serverName with
  | some "" => path.stem
  | some name => name
  | none => path.stem

/-- Runs the command on settings that have been loaded. -/
def runSettings (now : Instant) (path : Path) (settings : Settings) (showsResolved : Bool) :
    Run Nat := do
  let l ← openLog settings.logging
  Run.inform l now .info ("Loaded configuration from " ++ path.text)
  let o := Options.ofPairs settings.properties
  let built := Connector.build
    { name := connectorName o path, isBuiltin := some fun _ => false,
      nameOf := some TableId.identifier } o
  Run.report l now built.notices
  match built.outcome with
  | .error fault => endWith fault
  | .ok c => check l now c showsResolved

/-- Runs the command on arguments that have been read. -/
def runArguments (now : Instant) (arguments : Arguments) : Run Nat := do
  let path := Path.ofText arguments.file
  let refuse (message : String) : Run Nat := do
    Run.complain ("Argument validation error: " ++ message)
    return 1
  match readOverrides arguments.items with
  | .error fault => refuse fault.message
  | .ok overrides =>
    let disk := (← get).disk
    match disk.contains path with
    | .error fault => throw (.disk fault)
    | .ok false => refuse (FileFault.missing path.text).message
    | .ok true =>
      match Settings.ofFile disk path overrides arguments.level with
      | .error fault =>
        if isConfigurationFault fault then
          Run.complain ("Configuration error: " ++ fault.message)
          return 1
        else throw (.file fault)
      | .ok settings => runSettings now path settings arguments.showsResolved

/-- Runs the command on words. -/
def runWords (now : Instant) (words : List String) : Run Nat := do
  match Arguments.ofTexts words with
  | .error .help =>
    Run.print help
    return 0
  | .error (.usage fault) =>
    modify fun c => { c with err := c.err ++ usage }
    Run.complain ("relational-config: error: " ++ fault.message)
    return 2
  | .ok arguments => runArguments now arguments

/-- The exit code of a run, or why it breaks off, and what it leaves behind. -/
def run (now : Instant) (words : List String) (disk : Disk) : Except Escape Nat × Console :=
  (runWords now words).run.run { disk }

end CaptureConfig.Command
