import RegisterMap.Source.Resets

/-!
# Around the register model

The other files of a generated package: its manifest, its roots, the simulator that begins with the
reset values, and the demonstration program.
-/

namespace RegisterMap

open Lines
open Text (quoted constant)

namespace Rendering

variable (x : Rendering)

def packageName : String := x.config.packageName.getD (x.topModule ++ "_ral")

/-- The name of the package as an identifier. -/
def packageIdentifier : String :=
  String.ofList (x.packageName.toList.map fun c => if c = '-' then '_' else c)

/-- A path as seen from a directory; one that starts at the root of the file system stays as it is. -/
def below (directory name : String) : String :=
  if name.startsWith "/" then name
  else if directory.isEmpty || directory.endsWith "/" then directory ++ name
  else directory ++ "/" ++ name

/-! ## Manifest and roots -/

/-- The dependencies on the libraries of generated packages. -/
def runtimeDependencies : Lines :=
  match x.config.runtime with
  | .path directory =>
    let dependency (name part : String) : String :=
      name ++ " = \x7b path = " ++ quoted (below directory part) ++ " \x7d"
    [dependency "ral-runtime" "runtime", dependency "ral-sim" "sim"]
  | .version v => ["ral-runtime = " ++ quoted v, "ral-sim = " ++ quoted v]

def manifest : Lines :=
  ["# Generated by ral-generator. Do not edit.", "", "[package]", "name = " ++ quoted x.packageName,
    "version = \"0.1.0\"", "edition = \"2021\"", "publish = false", "", "[dependencies]"] ++
    x.runtimeDependencies ++ onlyIf x.flavor.isAsync ["futures = \"0.3.31\""] ++
    ["", "[[example]]", "name = \"demo\"", "path = \"demos/demo.rs\"", "", "[workspace]"]

def libraryRoot : Lines :=
  header ++
    [s!"//! Register access layer for the `{x.topName}` address map.", "", "pub mod reg_model;",
      "pub mod sim;"] ++
    onlyIf (!x.config.skipTests) ["", "#[cfg(test)]", "mod tests;"]

/-- The root of the register model. -/
def modelRoot : Lines :=
  header ++ [s!"pub mod {x.topModule};", "", s!"pub use {x.topModule}::build;"]

/-! ## Simulator -/

/-- The program of a simulator that begins with some values. -/
def simulatorProgram (values : List (Nat × Nat)) : Lines :=
  header ++
    ["use ral_sim::Simulator;", "use std::sync::Arc;", "",
      "/// Register reset values by byte address. Zero words are left out."] ++
    group "pub const RESET_VALUES: &[(u64, u64)] = &[" "];"
      (values.map fun (address, word) => s!"({constant address}, {constant word}),") ++
    apart ("/// Simulator holding every register at its reset value." ::
      block "pub fn simulator() -> Arc<Simulator>"
        ["let sim = Simulator::new();", "sim.preload_all(RESET_VALUES);", "Arc::new(sim)"])

def simulatorSource : Except ExportFault Lines := do
  pure (simulatorProgram (← x.resetValues))

/-! ## Demonstration -/

/-- The accessor of the first register of the export root that the demonstration can read. -/
def demoRegister (top : TypeRecord) : Option String :=
  ((x.childrenOf top.place).find? fun (child, _) =>
    child.node.kind == .register && child.node.component.array.isNone &&
      (x.plan.typeOf? child.id).any fun r => r.place.node.readable).map (·.2)

/-- The lines that read a register. -/
def demoRead (accessor : String) : Lines :=
  let call := s!"top.{accessor}().read()"
  let read := if x.flavor.isAsync then s!"futures::executor::block_on({call})" else call
  block s!"match {read}"
    [s!"Ok(value) => println!(\"{accessor} = \x7b:#x\x7d\", value),",
      s!"Err(e) => eprintln!(\"{accessor}: \x7b\x7d\", e),"]

/-- The demonstration program, with the lines that read a register. -/
def demoProgram (read : Lines) : Lines :=
  header ++
    [s!"use {x.packageIdentifier}::reg_model::build;", s!"use {x.packageIdentifier}::sim::simulator;",
      ""] ++
    block "fn main()"
      (["let sim = simulator();"] ++
        group "let top = match build(sim.clone()) \x7b" "\x7d;"
          ("Ok(top) => top," ::
            group "Err(e) => \x7b" "\x7d"
              ["eprintln!(\"Error: \x7b\x7d\", e);", "std::process::exit(1);"]) ++
        ["println!(\"\x7b\x7d @ \x7b:#x\x7d\", top.name(), top.address());"] ++ read ++
        ["let stats = sim.stats();",
          "println!(\"\x7b\x7d reads, \x7b\x7d writes\", stats.total_reads(), stats.total_writes());"])

def demoSource : Except ExportFault Lines := do
  let top ← x.topType
  pure (x.demoProgram (((x.demoRegister top).map x.demoRead).getD []))

end Rendering

end RegisterMap
