import RegisterMap.CommandLine.Arguments
import RegisterMap.Export.ConfigFile
import RegisterMap.Source.Package
import RegisterMap.Tree.Format

/-!
# Runs of the command

What a run reads, says and writes, as a function of what the files hold.  The files of the package
are the last thing that happens; everything that can be wrong with the tree, the configuration or the
export is found before any of them is written.
-/

namespace RegisterMap

/-- What a file holds, or why it cannot be read. -/
abbrev ReadFile := String → Except String String

/-- What a run comes to. -/
inductive RunResult where
  | failed (complaint : String)
  /-- The run stops where it is, before it can complain of anything. -/
  | aborted (cause : String)
  /-- These files are to be written, and then these lines are said; after that there may still be
  something to complain of. -/
  | written (files : List (String × String)) (lines : List String) (complaint : Option String)
deriving Repr

/-- A run: the lines said before any file is written, and what it comes to. -/
structure Run where
  lines : List String
  result : RunResult
deriving Repr

/-- A complaint with what caused it. -/
def TreeFault.report (e : TreeFault) : String :=
  e.message ++ ((e.cause?.map fun cause => ": " ++ cause.message).getD "")

/-- What a run comes to that meets a fault of a tree. -/
def TreeFault.result (e : TreeFault) : RunResult :=
  if e.aborts then .aborted e.report else .failed e.report

/-- A complaint with what caused it. -/
def ExportFault.report : ExportFault → String
  | tree e => e.report
  | e => e.message

/-- What a run comes to that meets a fault of an export. -/
def ExportFault.result (e : ExportFault) : RunResult :=
  if e.aborts then .aborted e.report else .failed e.report

namespace Arguments

/-- The register tree of a run, with the chosen export root. -/
def readTree (a : Arguments) (read : ReadFile) : Except RunResult RegisterTree := do
  let text ← (read a.input).mapError fun why =>
    .failed ((TreeFault.unreadable a.input).message ++ ": " ++ why)
  let tree ← (RegisterTree.ofText text).mapError TreeFault.result
  match a.top with
  | some path => (tree.selectTop path).mapError TreeFault.result
  | none => pure tree

/-- The configuration of a run: that of the file, and the options on top of it. -/
def readConfig (a : Arguments) (read : ReadFile) : Except String ExportConfig := do
  let base ← match a.config with
    | none => pure {}
    | some file => do
      let text ← (read file).mapError fun why => (ExportFault.unreadable file).message ++ ": " ++ why
      (ExportConfig.ofToml text file).mapError ExportFault.report
  let listed := a.patterns.foldl .addPattern (a.properties.foldl .addProperty base)
  let config := { listed with
    algorithm := a.hash.getD listed.algorithm
    asynchronous := listed.asynchronous || a.asynchronous
    skipTests := listed.skipTests || a.skipTests
    typedBlocks := listed.typedBlocks || a.typedBlocks
    packageName := a.packageName <|> listed.packageName
    runtime := (a.runtimePath.map .path).getD listed.runtime }
  config.validate.mapError ExportFault.report
  pure config

/-- What is said of a written package. -/
def summary (root : String) (plan : Plan) (package : Package) : String :=
  s!"Output written to: {root} ({plan.records.length} types, {plan.enums.length} enumerations, " ++
    s!"{package.files.length} files)"

/-- What keeps the tests of a package from being run: there are files, but no program to build them. -/
def noProgram : String := "No such file or directory (os error 2)"

def run [RunHash] (a : Arguments) (read : ReadFile) : Run :=
  if a.runTests && a.skipTests then
    ⟨[], .failed "--run-tests has nothing to run with --skip-tests"⟩
  else
    let loading := s!"Loading register tree from: {a.input}" ::
      a.includes.map fun directory => s!"Include path: {directory}"
    let prepared : Except RunResult (RegisterTree × ExportConfig) := do
      pure (← a.readTree read, ← (a.readConfig read).mapError .failed)
    match prepared with
    | .error result => ⟨loading, result⟩
    | .ok (tree, config) =>
      let lines := loading ++ [s!"Exporting {tree.path tree.top} ({config.algorithm.keyword} hash)"]
      match generate tree config with
      | .error e => ⟨lines, e.result⟩
      | .ok (plan, package) =>
        let root := Rendering.below a.output package.name
        let files := package.files.map fun (path, text) => (Rendering.below root path, text)
        let said := summary root plan package
        if a.runTests then
          ⟨lines, .written files [said, s!"Running generated tests in {root}"]
            (some (s!"running cargo test in {root}: " ++ noProgram))⟩
        else ⟨lines, .written files [said] none⟩

end Arguments

end RegisterMap
