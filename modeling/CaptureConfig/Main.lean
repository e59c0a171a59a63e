import CaptureConfig.Command.Run

/-!
# The command

The file that the arguments name is read, the run is made on a disk that holds it alone, and what the run
has put on that disk is written.
-/

open CaptureConfig CaptureConfig.Command

/-- The present time: that at which a file made just now was last changed. -/
def presentTime : IO Instant := do
  let (_, path) ← IO.FS.createTempFile
  let found ← path.metadata
  IO.FS.removeFile path
  return ⟨found.modified.sec, found.modified.nsec.toNat / 1000000⟩

/-- What is found at a path. What cannot be read as a file is taken for a directory. -/
def found? (path : Path) : IO (Option DiskEntry) := do
  try
    let bytes ← IO.FS.readBinFile path.text
    return some (.file bytes.toList)
  catch
    | .noFileOrDirectory _ _ _ => return none
    | _ => return some .directory

/-- The disk that holds what the arguments name. -/
def diskFor (words : List String) : IO Disk := do
  match Arguments.ofTexts words with
  | .ok arguments =>
    let path := Path.ofText arguments.file
    match ← found? path with
    | some e => return Disk.ofEntries [(path.names, e)]
    | none => return {}
  | .error _ => return {}

/-- Writes the files that are on a disk and were not on it before. -/
def writeNew (before after : Disk) : IO Unit := do
  for (names, bytes) in after.files do
    if (before.entry? names).isNone then
      let path := Path.ofNames names
      IO.FS.createDirAll path.parent.text
      let file ← IO.FS.Handle.mk path.text .append
      file.write ⟨bytes.toArray⟩

/-- Runs the command. -/
def main (words : List String) : IO UInt32 := do
  let disk ← diskFor words
  let (outcome, console) := run (← presentTime) words disk
  writeNew disk console.disk
  (← IO.getStdout).putStr console.out
  (← IO.getStderr).putStr console.err
  match outcome with
  | .ok code => return code.toUInt32
  | .error fault =>
    (← IO.getStderr).putStrLn fault.message
    return 1
