import CaptureConfig.Assoc
import CaptureConfig.Disk.Fault
import CaptureConfig.Disk.Path

/-!
# Disks

A disk holds files and directories, each known by the names that lead to it from the working directory.
The names of what lies above that begin with two dots, and those of what is found from the root begin
with a slash; these directories are always there.
-/

namespace CaptureConfig

/-- What a disk holds at a place. -/
inductive DiskEntry where
  | file (bytes : List UInt8)
  | directory
deriving Repr, DecidableEq

/-- Files and directories, and the names that lead to them. -/
structure Disk where
  entries : List (List String × DiskEntry) := []
deriving Repr, DecidableEq, Inhabited

namespace Disk

/-- Whether names lead to the working directory, to one above it, or to the root. -/
def isFixed (names : List String) : Bool := names.all (· == "..") || names == ["/"]

/-- Whether names lead to something below the working directory. -/
def isLocal (names : List String) : Bool :=
  match names with
  | [] => false
  | name :: _ => name != ".." && name != "/"

/-- What the names lead to. -/
def entry? (d : Disk) (names : List String) : Option DiskEntry :=
  if isFixed names then some .directory else d.entries.lookup names

/-- The disk with an entry at the given names: one that is there is replaced. -/
def put (d : Disk) (names : List String) (e : DiskEntry) : Disk :=
  ⟨Assoc.insert names e d.entries⟩

/-- Whether a name is longer than a disk allows. -/
def tooLong (name : String) : Bool := 255 < name.utf8ByteSize

/-- The names of the directory above. -/
def above (names : List String) : List String :=
  if names == ["/"] then names
  else if isFixed names then names ++ [".."]
  else names.dropLast

/-- The names after one more step, which need not lead to anything. -/
def next (d : Disk) (name : String) (names : List String) : Except DiskCause (List String) :=
  match d.entry? names with
  | none => .error .notFound
  | some (.file _) => .error .notDirectory
  | some .directory =>
    if tooLong name then .error .nameTooLong
    else .ok (if name = ".." then above names else names ++ [name])

/-- The names after several steps; all but the last step have to lead to directories. -/
def follow (d : Disk) : List String → List String → Except DiskCause (List String)
  | names, [] => .ok names
  | names, name :: rest => do follow d (← d.next name names) rest

/-- The names that a path stands for. -/
def locate (d : Disk) (p : Path) : Except DiskCause (List String) :=
  if p.hasNull then .error .nullCharacter else d.follow (if p.root = "" then [] else ["/"]) p.parts

/-- What a path leads to. -/
def find (d : Disk) (p : Path) : Except DiskCause DiskEntry := do
  match d.entry? (← d.locate p) with
  | some e => return e
  | none => throw .notFound

/-- Whether a path leads to something. A path that cannot be asked about is a fault. -/
def contains (d : Disk) (p : Path) : Except DiskFault Bool :=
  match d.find p with
  | .ok _ => .ok true
  | .error .nameTooLong => .error ⟨.nameTooLong, p.text⟩
  | .error _ => .ok false

/-- Whether a path leads to a directory. -/
def isDirectory (d : Disk) (p : Path) : Bool :=
  match d.find p with
  | .ok .directory => true
  | _ => false

/-- The bytes of a file. -/
def read (d : Disk) (p : Path) : Except DiskFault (List UInt8) :=
  match d.find p with
  | .ok (.file bytes) => .ok bytes
  | .ok .directory => .error ⟨.isDirectory, p.text⟩
  | .error cause => .error ⟨cause, p.text⟩

/-- The disk with one more directory. -/
def makeDirectory (d : Disk) (p : Path) : Except DiskCause Disk := do
  let names ← d.locate p
  match d.entry? names with
  | some _ => throw .exists
  | none => return d.put names .directory

/-- The disk with one more directory, unless there is a directory already. -/
def ensureDirectory (d : Disk) (p : Path) : Except DiskCause Disk :=
  match d.makeDirectory p with
  | .ok d' => .ok d'
  | .error cause => if d.isDirectory p then .ok d else .error cause

/-- The disk with the directory that the names lead to, given from the last name on, and with the
directories before it. What has been made before a request is refused stays. -/
def ensureDirectories (d : Disk) (root : String) : List String → Except (DiskFault × Disk) Disk
  | [] => refused d ⟨root, []⟩ (d.ensureDirectory ⟨root, []⟩)
  | name :: before =>
    let p : Path := ⟨root, (name :: before).reverse⟩
    match d.ensureDirectory p with
    | .error .notFound => do
      let d' ← ensureDirectories d root before
      refused d' p (d'.ensureDirectory p)
    | outcome => refused d p outcome
where
  /-- The outcome with the path that the request names and the disk that refuses it. -/
  refused (d : Disk) (p : Path) (outcome : Except DiskCause Disk) : Except (DiskFault × Disk) Disk :=
    outcome.mapError fun cause => (⟨cause, p.text⟩, d)

/-- The disk with bytes added at the end of a file, which is made if it is not there. -/
def append (d : Disk) (p : Path) (bytes : List UInt8) : Except DiskFault Disk :=
  match d.locate p with
  | .error cause => .error ⟨cause, p.text⟩
  | .ok names =>
    match d.entry? names with
    | some .directory => .error ⟨.isDirectory, p.text⟩
    | some (.file old) => .ok (d.put names (.file (old ++ bytes)))
    | none => .ok (d.put names (.file bytes))

/-- The disk with an entry and the directories that lead to it. -/
def putWithin (d : Disk) (names : List String) (e : DiskEntry) : Disk :=
  let leading := ((List.range names.length).map names.take).filter fun ns => !isFixed ns
  (leading.foldl (fun d ns => d.put ns .directory) d).put names e

/-- The disk with the given files and directories. -/
def ofEntries (entries : List (List String × DiskEntry)) : Disk :=
  entries.foldl (fun d (names, e) => d.putWithin names e) {}

/-- The files of a disk with their names and bytes. -/
def files (d : Disk) : List (List String × List UInt8) :=
  d.entries.filterMap fun (names, e) => match e with
    | .file bytes => some (names, bytes)
    | .directory => none

end Disk

end CaptureConfig
