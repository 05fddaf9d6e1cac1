import Mathlib
import RegisterMap.Proofs.Export.Pruning
import RegisterMap.Source.Package

/-!
# What is rendered of a restricted tree

Rendering looks at the nodes of a plan only through their components, through the shown children
that the plan lists for them, and through paths and addresses.  All of these are the same for the
counterpart of a node in what is left of a tree.  So every file is rendered as for the whole tree,
but for the demonstration program, which looks into the registers themselves.
-/

namespace RegisterMap

namespace Restriction

variable (R : Restriction)

/-- The rendering of what is left of a tree. -/
def rendering (x : Rendering) : Rendering := ⟨R.tree x.tree, R.plan x.plan, x.config⟩

/-- The counterparts of the shown fields of a register. -/
def shownFields (fields : List (Place × String × FieldDetail)) :
    List (Place × String × FieldDetail) :=
  fields.map fun f => (R.place f.1, f.2)

/-- The counterpart of a site. -/
def site (s : Site) : Site := { s with place := R.place s.place }

variable {R} {x : Rendering} {p : Place}

lemma bind_map_ok {α β γ : Type} (y : Except ExportFault α) (g : α → β)
    (f : β → Except ExportFault γ) : (y.map g >>= f) = y >>= fun a => f (g a) := by
  cases y <;> rfl

lemma mapM_map_ok {α β γ : Type} (f : α → Except ExportFault β) (g : β → γ) (l : List α) :
    l.mapM (fun a => (f a).map g) = (l.mapM f).map (List.map g) := by
  induction l with
  | nil => rfl
  | cons a rest ih =>
    rw [List.mapM_cons, List.mapM_cons, ih]
    cases f a with
    | error e => rfl
    | ok b => cases rest.mapM f <;> rfl

lemma map_flatten_ok {α β : Type} (y : Except ExportFault (List (List α))) (g : α → β) :
    (y >>= fun ls => pure ls.flatten).map (List.map g) =
      y.map (List.map (List.map g)) >>= fun ls => pure ls.flatten := by
  cases y with
  | error e => rfl
  | ok ls => exact congrArg Except.ok List.map_flatten

/-! ## The plan -/

@[simp] lemma place_record (r : TypeRecord) : (R.record r).place = R.place r.place := rfl

@[simp] lemma identifier_record (r : TypeRecord) : (R.record r).identifier = r.identifier := rfl

@[simp] lemma flavor_rendering : (R.rendering x).flavor = x.flavor := rfl

@[simp] lemma topName_rendering : (R.rendering x).topName = x.topName := instName_place x.tree.top

@[simp] lemma topModule_rendering : (R.rendering x).topModule = x.topModule :=
  congrArg Identifier.snakeCase topName_rendering

@[simp] lemma typeOf_rendering (p : Place) :
    (R.rendering x).typeOf (R.place p) = (x.typeOf p).map R.record := by
  unfold Rendering.typeOf
  have htype : (R.rendering x).plan.typeOf? (R.place p).id = (x.plan.typeOf? p.id).map R.record := by
    rw [id_place]
    exact typeOf?_plan x.plan p.id
  have hpath : (R.rendering x).tree.path (R.place p) = x.tree.path p := path_tree p
  rw [htype, hpath]
  cases x.plan.typeOf? p.id <;> rfl

@[simp] lemma topType_rendering : (R.rendering x).topType = x.topType.map R.record :=
  typeOf_rendering x.tree.top

@[simp] lemma childrenOf_rendering (p : Place) :
    (R.rendering x).childrenOf (R.place p) = R.accessors (x.childrenOf p) := by
  unfold Rendering.childrenOf
  rw [id_place]
  exact childrenOf_plan x.plan p.id

@[simp] lemma fieldsOf_rendering (p : Place) :
    (R.rendering x).fieldsOf (R.place p) = R.shownFields (x.fieldsOf p) := by
  unfold Rendering.fieldsOf shownFields
  rw [childrenOf_rendering, accessors, List.filterMap_map, List.map_filterMap]
  refine List.filterMap_congr fun child _ => ?_
  simp only [Function.comp_apply, detail_place, Option.map_map]
  rfl

@[simp] lemma enumOf?_rendering (p : Place) :
    (R.rendering x).plan.enumOf? (R.place p).id = x.plan.enumOf? p.id := by
  rw [id_place]
  exact enumOf?_plan x.plan p.id

@[simp] lemma isPlain_rendering (p : Place) :
    (R.rendering x).plan.isPlain (R.place p).id = x.plan.isPlain p.id := by
  rw [id_place]
  exact isPlain_plan x.plan p.id

/-! ## The simulator -/

@[simp] lemma registerResets_rendering (p : Place) (address : ℕ) :
    (R.rendering x).registerResets (R.place p) address = x.registerResets p address := by
  unfold Rendering.registerResets
  rw [detail_place, fieldsOf_rendering, shownFields]
  simp only [List.foldl_map]

/-- A walk that finds the same in a place of the restricted tree finds the same in a child there. -/
lemma childResets_rendering {deeper deeper' : Place → ℕ → Except ExportFault (List (ℕ × ℕ))}
    (h : ∀ p base, deeper' (R.place p) base = deeper p base) (base : ℕ) (child : Place) :
    (R.rendering x).childResets deeper' base (R.place child) = x.childResets deeper base child := by
  unfold Rendering.childResets Rendering.elementResets
  simp only [component_place, typeOf_rendering, bind_map_ok, place_record,
    registerResets_rendering, h]

@[simp] lemma resetsIn_rendering (fuel : ℕ) (p : Place) (base : ℕ) :
    (R.rendering x).resetsIn fuel (R.place p) base = x.resetsIn fuel p base := by
  induction fuel generalizing p base with
  | zero => rfl
  | succ fuel ih =>
    unfold Rendering.resetsIn
    rw [childrenOf_rendering, accessors, List.mapM_map]
    refine congrArg (· >>= _) (mapM_congr fun child _ => ?_)
    exact childResets_rendering ih base child.1

@[simp] lemma resetValues_rendering : (R.rendering x).resetValues = x.resetValues := by
  unfold Rendering.resetValues
  have haddress : (R.rendering x).tree.top.address = x.tree.top.address := address_place _
  have hlength : (R.rendering x).plan.records.length = x.plan.records.length := List.length_map _
  rw [topType_rendering, bind_map_ok, haddress, hlength]
  simp only [place_record, resetsIn_rendering]

@[simp] lemma simulatorSource_rendering : (R.rendering x).simulatorSource = x.simulatorSource := by
  unfold Rendering.simulatorSource
  rw [resetValues_rendering]

/-! ## The tests -/

@[simp] lemma fieldValues_rendering (p : Place) (f : FieldDetail) :
    (R.rendering x).fieldValues (R.place p) f = x.fieldValues p f := by
  unfold Rendering.fieldValues
  rw [enumOf?_rendering]

@[simp] lemma fieldTest_rendering : (R.rendering x).fieldTest = x.fieldTest := rfl

@[simp] lemma writeOnlyTest_rendering (wide : Bool) (fields : List (Place × String × FieldDetail))
    (pick : List (String × ℕ) → Option (String × ℕ)) :
    (R.rendering x).writeOnlyTest wide (R.shownFields fields) pick =
      x.writeOnlyTest wide fields pick := by
  unfold Rendering.writeOnlyTest shownFields
  simp only [List.filterMap_map, Function.comp_def, fieldValues_rendering, enumOf?_rendering,
    instName_place, flavor_rendering]

@[simp] lemma registerTest_rendering (p : Place) (r : RegisterDetail) :
    (R.rendering x).registerTest (R.place p) r = x.registerTest p r := by
  unfold Rendering.registerTest
  rw [fieldsOf_rendering]
  simp only [writeOnlyTest_rendering]
  simp only [shownFields, List.any_map, List.flatMap_map, Function.comp_def, fieldValues_rendering,
    fieldTest_rendering]

@[simp] lemma siteBody_rendering (s : Site) :
    (R.rendering x).siteBody (R.site s) = x.siteBody s := by
  unfold Rendering.siteBody site
  simp only [detail_place, registerTest_rendering]
  rfl

@[simp] lemma siteTest_rendering (s : Site) (name : String) :
    (R.rendering x).siteTest (R.site s) name = x.siteTest s name := by
  unfold Rendering.siteTest
  rw [siteBody_rendering]
  rfl

@[simp] lemma testModule_rendering (sites : List Site) :
    (R.rendering x).testModule (sites.map R.site) = x.testModule sites := by
  unfold Rendering.testModule
  have hnames : (sites.map R.site).map Site.testName = sites.map Site.testName := by
    rw [List.map_map]
    rfl
  dsimp only
  rw [hnames, List.zip_map_left, topModule_rendering]
  simp only [List.flatMap_map, Prod.map, siteTest_rendering, flavor_rendering, id]

@[simp] lemma sitesIn_rendering (fuel : ℕ) (p : Place) (before : List SiteStep) (module : String)
    (depth : ℕ) : (R.rendering x).sitesIn fuel (R.place p) before module depth =
      (x.sitesIn fuel p before module depth).map (List.map R.site) := by
  induction fuel generalizing p before module depth with
  | zero => rfl
  | succ fuel ih =>
    unfold Rendering.sitesIn
    rw [childrenOf_rendering, accessors, List.mapM_map]
    rw [map_flatten_ok, ← mapM_map_ok]
    refine congrArg (· >>= _) (mapM_congr fun child _ => ?_)
    simp only [Function.comp_apply, component_place, typeOf_rendering, bind_map_ok, place_record, ih]
    cases x.typeOf child.1 with
    | error e => rfl
    | ok type =>
      cases child.1.node.component.kind <;> rfl

@[simp] lemma sites_rendering : (R.rendering x).sites = x.sites.map (List.map R.site) := by
  unfold Rendering.sites
  have hlength : (R.rendering x).plan.records.length = x.plan.records.length := List.length_map _
  rw [topType_rendering, bind_map_ok, hlength, topModule_rendering]
  simp only [place_record, sitesIn_rendering]
  cases x.topType <;> rfl

lemma siteModules_map (sites : List Site) : siteModules (sites.map R.site) = siteModules sites := by
  unfold siteModules
  rw [List.foldl_map]
  rfl

@[simp] lemma tests_rendering : (R.rendering x).tests = x.tests := by
  unfold Rendering.tests
  rw [sites_rendering, bind_map_ok]
  refine congrArg (_ >>= ·) (funext fun sites => ?_)
  have hmodule : ∀ module, (R.rendering x).testModule
      ((sites.map R.site).filter fun s => s.module == module) =
        x.testModule (sites.filter fun s => s.module == module) := by
    intro module
    rw [List.filter_map, testModule_rendering]
    rfl
  simp only [siteModules_map, hmodule]

/-! ## The register model -/

@[simp] lemma propertyConstants_rendering (c : Component) :
    (R.rendering x).propertyConstants c = x.propertyConstants c := rfl

@[simp] lemma childParts_rendering (child : Place) :
    (R.rendering x).childParts (R.place child) = x.childParts child := by
  unfold Rendering.childParts
  simp only [component_place, typeOf_rendering, bind_map_ok, identifier_record, flavor_rendering]

@[simp] lemma childDeclarations_rendering (children : Accessors) :
    (R.rendering x).childDeclarations (R.accessors children) = x.childDeclarations children := by
  unfold Rendering.childDeclarations accessors
  simp only [List.mapM_map, Function.comp_def, childParts_rendering]

@[simp] lemma childInitializers_rendering (children : Accessors) :
    (R.rendering x).childInitializers (R.accessors children) = x.childInitializers children := by
  unfold Rendering.childInitializers accessors
  simp only [List.mapM_map, Function.comp_def, childParts_rendering]

@[simp] lemma childFunctions_rendering (children : Accessors) :
    (R.rendering x).childFunctions (R.accessors children) = x.childFunctions children := by
  unfold Rendering.childFunctions accessors
  simp only [List.mapM_map, Function.comp_def, childParts_rendering, component_place]

@[simp] lemma fieldSource_record (r : TypeRecord) (f : FieldDetail) :
    (R.rendering x).fieldSource (R.record r) f = x.fieldSource r f := by
  unfold Rendering.fieldSource
  simp only [place_record, component_place, enumOf?_rendering, identifier_record, flavor_rendering,
    propertyConstants_rendering]
  rfl

@[simp] lemma fieldLayoutSource_rendering (child : Place) (f : FieldDetail) :
    (R.rendering x).fieldLayoutSource (R.place child) f = x.fieldLayoutSource child f := by
  unfold Rendering.fieldLayoutSource
  simp only [enumOf?_rendering, instName_place]

@[simp] lemma fieldFunction_rendering (index : ℕ) (child : Place) (accessor : String) :
    (R.rendering x).fieldFunction index (R.place child) accessor =
      x.fieldFunction index child accessor := by
  unfold Rendering.fieldFunction
  simp only [component_place, isPlain_rendering, typeOf_rendering, bind_map_ok, identifier_record,
    flavor_rendering]

@[simp] lemma registerSource_record (r : TypeRecord) (d : RegisterDetail) :
    (R.rendering x).registerSource (R.record r) d = x.registerSource r d := by
  unfold Rendering.registerSource
  rw [place_record, component_place, identifier_record, childrenOf_rendering, fieldsOf_rendering]
  unfold accessors shownFields
  dsimp only
  rw [List.zipIdx_map, List.mapM_map]
  simp only [List.map_map, List.any_map, Function.comp_def, Prod.map, fieldFunction_rendering,
    fieldLayoutSource_rendering, id]
  rfl

@[simp] lemma memorySource_record (r : TypeRecord) (m : MemoryDetail) :
    (R.rendering x).memorySource (R.record r) m = x.memorySource r m := by
  unfold Rendering.memorySource
  simp only [place_record, component_place, childrenOf_rendering, identifier_record,
    childDeclarations_rendering, childInitializers_rendering, childFunctions_rendering]
  rfl

@[simp] lemma containerSource_record (r : TypeRecord) :
    (R.rendering x).containerSource (R.record r) = x.containerSource r := by
  unfold Rendering.containerSource
  simp only [place_record, component_place, childrenOf_rendering, identifier_record,
    childDeclarations_rendering, childInitializers_rendering, childFunctions_rendering]
  rfl

@[simp] lemma recordSource_record (r : TypeRecord) :
    (R.rendering x).recordSource (R.record r) = x.recordSource r := by
  unfold Rendering.recordSource
  have hpath : (R.rendering x).tree.path (R.place r.place) = x.tree.path r.place := path_tree _
  simp only [place_record, detail_place, fieldSource_record, registerSource_record,
    memorySource_record, containerSource_record, hpath]

@[simp] lemma buildFunction_record (r : TypeRecord) :
    (R.rendering x).buildFunction (R.record r) = x.buildFunction r := by
  funext base
  unfold Rendering.buildFunction
  simp only [topName_rendering, flavor_rendering, identifier_record]

@[simp] lemma modelSource_rendering : (R.rendering x).modelSource = x.modelSource := by
  unfold Rendering.modelSource
  have hheader : (R.rendering x).modelHeader = x.modelHeader := by
    unfold Rendering.modelHeader
    rw [topName_rendering, flavor_rendering]
  have hrecords : (R.rendering x).plan.records = x.plan.records.map R.record := rfl
  have henums : (R.rendering x).plan.enums = x.plan.enums := rfl
  have haddress : (R.rendering x).tree.top.address = x.tree.top.address := address_place _
  rw [topType_rendering, hrecords, List.mapM_map, hheader, henums, haddress]
  simp only [Function.comp_def, recordSource_record, bind_map_ok, buildFunction_record]

end Restriction

end RegisterMap
