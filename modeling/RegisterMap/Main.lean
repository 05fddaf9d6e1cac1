import RegisterMap.CommandLine.Finished

/-!
# The command

Reads the files that the arguments name, runs, says what is to be said, and writes the package.
Everything but reading, saying and writing is decided by `Arguments.run`.
-/

namespace RegisterMap

namespace Command

/-- What a file holds, or the complaint of the system. -/
def readFile (path : String) : IO (Except String String) := do
  try
    pure (.ok (← IO.FS.readFile path))
  catch e =>
    pure (.error (toString e))

/-- The directory that a path names a file in. -/
def directoryOf (path : String) : String := "/".intercalate ((path.splitOn "/").dropLast)

/-- Writes a file and makes the directories above it. -/
def writeFile (path text : String) : IO Unit := do
  let directory := directoryOf path
  unless directory.isEmpty do
    IO.FS.createDirAll directory
  IO.FS.writeFile path text

/-- The digest of this run. -/
def drawHash : IO RunHash := do
  let seed ← IO.getRandomBytes 8
  pure (Folded.runHash seed.toUInt64LE!)

def execute [RunHash] (a : Arguments) : IO UInt32 := do
  let names := a.input :: a.config.toList
  let contents ← names.mapM fun name => do pure (name, ← readFile name)
  let run := a.run fun name => (contents.lookup name).getD (.error "not read")
  run.lines.forM IO.println
  match run.result with
  | .failed complaint =>
    IO.eprintln ("Error: " ++ complaint)
    pure 1
  | .aborted cause =>
    IO.eprintln cause
    pure 101
  | .written files lines complaint =>
    try
      files.forM fun file => writeFile file.1 file.2
      lines.forM IO.println
      complaint.forM fun why => IO.eprintln ("Error: " ++ why)
      pure (if complaint.isSome then 1 else 0)
    catch e =>
      IO.eprintln ("Error: " ++ toString e)
      pure 1

end Command

end RegisterMap

open RegisterMap in
/-- The command with the arguments of the process. -/
def main (arguments : List String) : IO UInt32 := do
  match Arguments.parse arguments with
  | .ok a => @Command.execute (← Command.drawHash) a
  | .error (.help topic) =>
    (Help.lines topic).forM IO.println
    pure 0
  | .error .version =>
    IO.println versionLine
    pure 0
  | .error (.refused reason) =>
    IO.eprintln ("error: " ++ reason)
    IO.eprintln usageLine
    pure 2
