/-!
# Files and directories

What lies in the directory of a run, and how a path leads to it.  A path is followed step by step: a
step can only be taken from a directory that is there, so a path through a missing directory leads
nowhere even if a later step leaves that directory again.  Only a directory can be followed by a
slash.

A directory is there if it was made, or if something lies in it.  The directories above the run are
there as well, but nothing is known to lie in them but the device that reads as an empty file.
-/

namespace RegisterMap

/-- Why a path cannot be used. -/
inductive DiskFault where
  | missing
  /-- A step of the path leaves from a file. -/
  | notDirectory
  /-- A directory is there, where a file is wanted. -/
  | isDirectory
  | taken
  /-- The path or one of its steps is too long. -/
  | tooLong
  /-- The path holds the character that ends paths. -/
  | nul
deriving DecidableEq, Repr

namespace DiskFault

def message : DiskFault → String
  | missing => "No such file or directory (os error 2)"
  | taken => "File exists (os error 17)"
  | notDirectory => "Not a directory (os error 20)"
  | isDirectory => "Is a directory (os error 21)"
  | tooLong => "File name too long (os error 36)"
  | nul => "file name contained an unexpected NUL byte"

end DiskFault

/-- A place below the directory of the run, by the names on the way to it.  A place outside begins
with steps upwards, or with the slash of the whole system. -/
abbrev Location := List String

/-- What lies in the directory of a run. -/
structure Disk where
  /-- The files by their places, with their texts. -/
  files : List (Location × String) := []
  directories : List Location := []
deriving Repr, Inhabited

namespace Location

/-- The place that a place lies in. -/
def leave (l : Location) : Location :=
  match l.getLast? with
  | none | some ".." => l ++ [".."]
  | some "/" => l
  | some _ => l.dropLast

/-- The place is not outside of the directory of the run. -/
def isInside (l : Location) : Bool := l.head?.all fun name => name != "/" && name != ".."

def path (l : Location) : String := "/".intercalate l

end Location

namespace Disk

/-! ## Places -/

/-- The empty device. -/
def emptyDevice : Location := ["/", "dev", "null"]

/-- The text of the file at a place. -/
def text? (d : Disk) (l : Location) : Option String :=
  if l = emptyDevice then some "" else d.files.lookup l

/-- A directory is at a place. -/
def isDirectory (d : Disk) (l : Location) : Bool :=
  (l.all fun name => name == "/" || name == "..") || d.directories.any (l.isPrefixOf ·) ||
    (emptyDevice :: d.files.map (·.1)).any fun f => f != l && l.isPrefixOf f

/-- Takes a step to a name from a place. -/
def step (d : Disk) (l : Location) (name : String) : Except DiskFault Location :=
  if d.isDirectory l then
    if name = "." then pure l
    else if name = ".." then pure l.leave
    else if 255 < name.utf8ByteSize then throw .tooLong
    else pure (l ++ [name])
  else throw (if (d.text? l).isSome then .notDirectory else .missing)

/-! ## Paths -/

/-- The steps of a path; a slash at its end stays as a step to where it is. -/
def steps (path : String) : List String :=
  (path.splitOn "/").filter (· != "") ++ if path.endsWith "/" then ["."] else []

/-- The place a path leads to, where nothing needs to be. -/
def locate (d : Disk) (path : String) : Except DiskFault Location :=
  if path.toList.contains (Char.ofNat 0) then throw .nul
  else if path.isEmpty then throw .missing
  else if 4096 ≤ path.utf8ByteSize then throw .tooLong
  else (steps path).foldlM d.step (if path.startsWith "/" then ["/"] else [])

/-- Something is at the end of a path, and it is a directory. -/
def leadsToDirectory (d : Disk) (path : String) : Bool :=
  match d.locate path with
  | .ok l => d.isDirectory l
  | .error _ => false

/-- The path of the directory that a path names something in, as far as it has one. -/
def parent (path : String) : String :=
  match path.splitOn "/" with
  | first :: rest =>
    let above := rest.dropLast.reverse.dropWhile fun name => name == "" || name == "."
    if rest.isEmpty then ""
    else if first.isEmpty ∧ above.isEmpty then "/"
    else "/".intercalate (first :: above.reverse)
  | [] => ""

/-- So many of the paths above a path, itself first. -/
def ancestors : Nat → String → List String
  | 0, _ => []
  | count + 1, path => path :: ancestors count (parent path)

/-! ## Reading -/

/-- What the file at the end of a path holds. -/
def read (d : Disk) (path : String) : Except DiskFault String := do
  let l ← d.locate path
  match d.text? l with
  | some text => pure text
  | none => throw (if d.isDirectory l then .isDirectory else .missing)

/-! ## Writing -/

/-- Makes a directory where nothing is. -/
def makeDirectory (d : Disk) (path : String) : Except DiskFault Disk := do
  let l ← d.locate path
  if (d.text? l).isSome || d.isDirectory l then throw .taken
  pure { d with directories := l :: d.directories }

/-- Makes a directory unless it is there. -/
def ensureDirectory (d : Disk) (path : String) : Except DiskFault Disk :=
  match d.makeDirectory path with
  | .ok d => pure d
  | .error e => if d.leadsToDirectory path then pure d else throw e

/-- Makes a directory, given with the paths above it, and first those that are missing on the way. -/
def ensureAll (d : Disk) : List String → Except DiskFault Disk
  | [] => pure d
  | path :: above =>
    if path.isEmpty then pure d
    else match d.ensureDirectory path with
      | .error .missing => do (← d.ensureAll above).ensureDirectory path
      | result => result

/-- Puts a file at a place, instead of one that is there. -/
def put (d : Disk) (l : Location) (text : String) : Disk :=
  { d with files := (l, text) :: d.files.filter (·.1 != l) }

/-- Writes a file where there is no directory. -/
def writeFile (d : Disk) (path text : String) : Except DiskFault Disk := do
  let l ← d.locate path
  if d.isDirectory l then throw .isDirectory
  pure (d.put l text)

/-- Writes files in order up to the first one that cannot be written, each in its directory. -/
def writeAll (d : Disk) : List (String × String) → Except String Unit × Disk
  | [] => (.ok (), d)
  | (path, text) :: rest =>
    let directory := parent path
    match d.ensureAll (ancestors (steps directory).length.succ directory) with
    | .error e => (.error (s!"creating {directory}: " ++ e.message), d)
    | .ok d =>
      match d.writeFile path text with
      | .error e => (.error (s!"writing {path}: " ++ e.message), d)
      | .ok d => d.writeAll rest

/-! ## Listing -/

/-- The disk with files at the ends of paths. -/
def ofFiles (files : List (String × String)) : Disk :=
  files.foldl (fun d f => (d.writeAll [f]).2) {}

/-- The files below the directory of the run that another disk does not have, by their paths. -/
def without (d : Disk) (before : Disk) : List (String × String) :=
  let added := d.files.filter fun f => f.1.isInside && (before.files.lookup f.1).isNone
  (added.map fun f => (f.1.path, f.2)).mergeSort fun a b => a.1 ≤ b.1

end Disk

end RegisterMap
