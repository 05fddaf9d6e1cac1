import RegisterMap.Source.Rendering

/-!
# Sites

The registers and memories that the generated tests visit: every one that is reached from the export
root by accessors, arrays as one.  Sites are grouped by the address map around them, which names the
module of their tests.
-/

namespace RegisterMap

/-- The name without the underscores at its end. -/
def withoutUnderscores (name : String) : String :=
  String.ofList (Identifier.dropUnderscores name.toList)

/-- One accessor on the way to a site. -/
structure SiteStep where
  accessor : String
  /-- The accessor gives an array, whose elements are all visited. -/
  array : Bool
deriving DecidableEq, Repr

/-- A register or memory that is reached from the export root. -/
structure Site where
  steps : List SiteStep
  /-- The node that tells what the type is; it may lie elsewhere in the tree. -/
  place : Place
  isMemory : Bool
  /-- The module of the tests, named after the address map around. -/
  module : String
  /-- The number of accessors on the way to the address map around. -/
  depth : Nat

/-- The name of the test of a site, if no other one has it. -/
def Site.testName (s : Site) : String :=
  "test_" ++
    String.intercalate "_" ((s.steps.drop s.depth).map fun step => withoutUnderscores step.accessor)

namespace Rendering

variable (x : Rendering)

/-- The sites in the type of a place, which is reached by some accessors and whose address map has a
module and is reached by the first so many accessors. -/
def sitesIn : (fuel : Nat) → Place → List SiteStep → String → Nat → Except ExportFault (List Site)
  | 0, _, _, _, _ => pure []
  | fuel + 1, p, before, module, depth => do
    let sites ← (x.childrenOf p).mapM fun (child, accessor) => do
      let c := child.node.component
      let type ← x.typeOf child
      let steps := before ++ [⟨accessor, c.array.isSome⟩]
      match c.kind with
      | .register => pure [⟨steps, type.place, false, module, depth⟩]
      | .memory => pure [⟨steps, type.place, true, module, depth⟩]
      | .registerFile => sitesIn fuel type.place steps module depth
      | .addressMap =>
        sitesIn fuel type.place steps (module ++ "_" ++ withoutUnderscores accessor) steps.length
      | _ => pure []
    pure sites.flatten

/-- All sites, in the order of the tree. -/
def sites : Except ExportFault (List Site) := do
  let top ← x.topType
  x.sitesIn (x.plan.records.length + 1) top.place [] x.topModule 0

end Rendering

/-- The modules of sites in the order in which they are met. -/
def siteModules (sites : List Site) : List String :=
  sites.foldl (fun ms s => if ms.contains s.module then ms else ms ++ [s.module]) []

end RegisterMap
