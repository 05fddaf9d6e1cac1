import RegisterMap.Source.Model
import RegisterMap.Source.Scaffold
import RegisterMap.Source.Tests

/-!
# Packages

All files of a generated package, and the way from a tree and a configuration to them.
-/

namespace RegisterMap

/-- A generated package. -/
structure Package where
  name : String
  /-- The paths of its files and what they hold, in order. -/
  files : List (String × String)
deriving DecidableEq, Repr

namespace Package

/-- What the first file at a path holds. -/
def file? (p : Package) (path : String) : Option String := p.files.lookup path

end Package

namespace Rendering

variable (x : Rendering)

/-- The files of the package besides its tests. -/
def mainFiles (model simulator demo : Lines) : List (String × Lines) :=
  [("Cargo.toml", x.manifest), ("src/lib.rs", x.libraryRoot), ("src/reg_model/mod.rs", x.modelRoot),
    (s!"src/reg_model/{x.topModule}.rs", model), ("src/sim.rs", simulator), ("demos/demo.rs", demo)]

/-- The files of the tests, if there are any. -/
def testFiles : Except ExportFault (List (String × Lines)) := do
  if x.config.skipTests then pure []
  else do
    let (root, modules) ← x.tests
    pure (("src/tests/mod.rs", root) :: modules.map fun (name, source) =>
      (s!"src/tests/{name}.rs", source))

def package : Except ExportFault Package := do
  let model ← x.modelSource
  let simulator ← x.simulatorSource
  let demo ← x.demoSource
  let testFiles ← x.testFiles
  pure ⟨x.packageName, (x.mainFiles model simulator demo ++ testFiles).map fun (path, source) =>
    (path, source.toText)⟩

end Rendering

/-- Plans and renders the export of a tree.  The predicate of the caller begins with a state. -/
def generateWith [RunHash] {σ : Type} (t : RegisterTree) (c : ExportConfig)
    (predicate : HidePredicate σ) (s : σ) : Except ExportFault (Plan × Package) := do
  c.validate
  let hide ← Hiding.ofConfig c.hide
  let plan ← ((Export.mk t hide predicate (.ofConfig c)).plan.run (.empty s)).1
  let package ← (Rendering.mk t plan c).package
  pure (plan, package)

/-- Plans and renders the export of a tree. -/
def generate [RunHash] (t : RegisterTree) (c : ExportConfig) : Except ExportFault (Plan × Package) :=
  generateWith t c .nothing ()

end RegisterMap
