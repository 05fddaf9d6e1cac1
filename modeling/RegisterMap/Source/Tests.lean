import RegisterMap.Source.Sites

/-!
# Generated tests

One test for every site, which moves the extreme values of every field, or of the first and last
entries of a memory, through the register model and compares them with what the simulator holds.
-/

namespace RegisterMap

open Lines
open Text (quoted constant)

namespace Rendering

variable (x : Rendering)

/-! ## Registers -/

/-- The values that a field is tested with, as code and in register position: all members of its
enumeration, or its least and greatest value. -/
def fieldValues (p : Place) (f : FieldDetail) : List (String × Nat) :=
  match x.plan.enumOf? p.id with
  | some r =>
    let e := r.encoding.enumeration
    (e.variants.zip e.entries).filterMap fun (variant, entry) =>
      (f.geometry.encode entry.value).toOption.map fun raw =>
        (r.identifier ++ "::" ++ variant, raw)
  | none =>
    [0, f.geometry.maxValue].filterMap fun v =>
      (f.geometry.encode v).toOption.map fun raw => (constant v ++ "_u128", raw)

/-- The test of one value of a field of a readable register; in a wide one, single words do not tell
the value. -/
def fieldTest (wide : Bool) (accessor : String) (f : FieldDetail) (value : String × Nat) : Lines :=
  let await := x.flavor.await
  let (code, raw) := value
  let writes := s!"reg.{accessor}().write({code}){await}.unwrap();"
  let reads := s!"assert_eq!(reg.{accessor}().read(){await}.unwrap(), {code});"
  match f.access with
  | .readWrite => [writes, reads]
  | .readOnly => [s!"preload_register(&sim, reg.register().spec(), {constant raw});", reads]
  | .writeOnly =>
    writes :: onlyIf (!wide)
      [s!"assert_eq!(sim.peek(reg.register().address()) & {constant f.geometry.bitmask}, " ++
        s!"{constant raw});"]

/-- The test of a register that cannot be read: every write names every field, with the first or the
last one of its values. -/
def writeOnlyTest (wide : Bool) (fields : List (Place × String × FieldDetail))
    (pick : List (String × Nat) → Option (String × Nat)) : Lines :=
  let chosen := fields.filterMap fun (child, _, f) =>
    (pick (x.fieldValues child f)).map fun (code, raw) =>
      let name := quoted child.node.instName
      let argument :=
        if (x.plan.enumOf? child.id).isSome then s!"({name}, {code}.into_value())"
        else s!"({name}, FieldValue::from({code}))"
      (argument, raw)
  let arguments := String.intercalate ", " (chosen.map (·.1))
  let expected := chosen.foldl (fun acc c => acc ||| c.2) 0
  s!"reg.write_fields(&[{arguments}]){x.flavor.await}.unwrap();" ::
    onlyIf (!wide) [s!"assert_eq!(sim.peek(reg.register().address()), {constant expected});"]

def registerTest (p : Place) (r : RegisterDetail) : Lines :=
  let wide := r.accessWidth < r.width
  let fields := x.fieldsOf p
  if fields.any (·.2.2.access.readable) then
    fields.flatMap fun (child, accessor, f) =>
      (x.fieldValues child f).flatMap (x.fieldTest wide accessor f)
  else
    x.writeOnlyTest wide fields (·.head?) ++ x.writeOnlyTest wide fields (·.getLast?)

/-! ## Memories -/

/-- The physical words of entry 0 with all bits set: the offset in bytes and the word, as code. -/
def onesOfEntry (m : MemoryDetail) : List (String × String) :=
  (List.range (m.width / m.accessWidth)).map fun i =>
    (constant (i * entryBytes m.accessWidth), constant (wordMask m.accessWidth))

def memoryTest (m : MemoryDetail) : Lines :=
  let await := x.flavor.await
  let max := constant (valueMask m.width)
  let count := min m.entries 4
  let writesEntry (index value : String) : String :=
    s!"mem.write_entry({index}, {value}){await}.unwrap();"
  let readsEntry (index value : String) : String :=
    s!"assert_eq!(mem.read_entry({index}){await}.unwrap(), {value});"
  "let last = mem.entries() - 1;" ::
    match m.access with
    | .readWrite =>
      [writesEntry "0" max, readsEntry "0" max, writesEntry "last" "1", readsEntry "last" "1",
        s!"let words: Vec<u128> = (0..{count}).map(|i| (i + 1) & {max}).collect();"] ++
        if x.config.typedBlocks then
          [s!"mem.write(0, &TypedBuffer::from_words({m.width}, &words)){await}.unwrap();",
            s!"assert_eq!(mem.read(0, {count}){await}.unwrap().to_words(), words);"]
        else
          [s!"mem.write(0, &words){await}.unwrap();",
            s!"assert_eq!(mem.read(0, {count}){await}.unwrap(), words);"]
    | .readOnly =>
      (onesOfEntry m).map (fun (offset, word) =>
          s!"sim.preload(mem.memory().spec().address + {offset}, {word});") ++
        [readsEntry "0" max] ++ onlyIf (1 < m.entries) [readsEntry "last" "0"]
    | .writeOnly =>
      [writesEntry "0" max] ++
        (onesOfEntry m).map (fun (offset, word) =>
          s!"assert_eq!(sim.peek(mem.memory().spec().address + {offset}), {word});") ++
        [writesEntry "last" "1"]

/-! ## Tests -/

/-- What is tested at a site. -/
def siteBody (s : Site) : Lines :=
  match s.place.node.detail with
  | .register r => x.registerTest s.place r
  | .memory m => x.memoryTest m
  | _ => []

/-- The way to a site from a name, with the test at its end; `i` numbers the names. -/
def siteWay (target : String) (body : Lines) (current : String) (i : Nat) : List SiteStep → Lines
  | [] => body
  | step :: rest =>
    let name := if rest.isEmpty then target else s!"n{i}"
    let inner := siteWay target body name (i + 1) rest
    if step.array then block s!"for {name} in {current}.{step.accessor}().iter()" inner
    else s!"let {name} = {current}.{step.accessor}();" :: inner

/-- The test of a site, under a name. -/
def siteTest (s : Site) (name : String) : Lines :=
  let way := siteWay (if s.isMemory then "mem" else "reg") (x.siteBody s) "dut" 0 s.steps
  let body := ["let sim = simulator();", "let dut = build(sim.clone()).unwrap();"] ++ way
  "#[test]" ::
    block s!"fn {name}()" (if x.flavor.isAsync then group "block_on(async \x7b" "\x7d);" body else body)

/-- The file of the tests of a module. -/
def testModule (sites : List Site) : Lines :=
  let names := freshNames [] (sites.map Site.testName)
  header ++
    ["#![allow(unused_imports)]", "", "use super::preload_register;", "use crate::reg_model::build;",
      s!"use crate::reg_model::{x.topModule}::*;", "use crate::sim::simulator;"] ++
    onlyIf x.flavor.isAsync ["use futures::executor::block_on;"] ++
    ["use ral_runtime::\x7bFieldEnum, FieldValue, TypedBuffer\x7d;"] ++
    (sites.zip names).flatMap fun (s, name) => apart (x.siteTest s name)

/-- The file that declares the modules of the tests. -/
def testRoot (modules : List String) : Lines :=
  header ++ modules.map (fun m => s!"mod {m};") ++
    ["", "use ral_runtime::bits::split_words;", "use ral_runtime::callbacks::entry_bytes;",
      "use ral_runtime::RegisterSpec;", "use ral_sim::Simulator;", "",
      "/// Stores `raw` the way the register's sub-word accesses see it."] ++
    block "pub(crate) fn preload_register(sim: &Simulator, spec: &RegisterSpec, raw: u128)"
      ("let words = split_words(raw, spec.width, spec.accesswidth);" ::
        block "for (i, word) in words.into_iter().enumerate()"
          ["sim.preload(spec.address + i as u64 * entry_bytes(spec.accesswidth), word);"])

/-- The files of the tests: the one that declares the modules, and each module with its name. -/
def tests : Except ExportFault (Lines × List (String × Lines)) := do
  let sites ← x.sites
  let modules := siteModules sites
  pure (testRoot modules,
    modules.map fun module => (module, x.testModule (sites.filter fun s => s.module == module)))

end Rendering

end RegisterMap
