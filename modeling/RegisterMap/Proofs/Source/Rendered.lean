import Mathlib
import RegisterMap.Proofs.Export.Closure
import RegisterMap.Proofs.Export.Faults
import RegisterMap.Proofs.Source.Unshared
import RegisterMap.Source.Package

/-!
# A planned tree renders

The code of the register model asks the plan about the children of records alone, so it is there for
every plan whose export root has an address (`modelSource_ends`).  The reset values and the tests go
on from a child to the place of its type, which is alike to the child unless two hash inputs have one
digest.  Where none have, both walks find all types, so a plan becomes a package if what is shown
lies in the address space, and an export fails only for what its input says
(`planned_tree_renders`).

With two inputs of one digest the place of a type may be of another kind than the child.  A register
file that shares the hash and the name of a register is then taken for the register, the fields of
which have no types (`colliding_types_do_not_render`).
-/

namespace RegisterMap

/-! ## The register model -/

namespace Rendering

variable {x : Rendering} {hidden : Screen} {h : Hasher} {r : TypeRecord}
  {child : Place × String}

/-- A missing type is the only fault of looking one up. -/
lemma failsOnly_typeOf (p : Place) : FailsOnly (fun fault => ∃ path, fault = .missingType path)
    (x.typeOf p) := by
  unfold typeOf
  split
  · exact .ok _
  · exact .error ⟨_, rfl⟩

section Model

variable (ht : x.tree.Loaded) (hsignals : hidden.HidesSignals) (hplan : hidden.Plans h x.tree x.plan)
  (hclosed : x.plan.Closed)

include ht hplan hclosed in
/-- A child of a record that is no field has a type. -/
lemma exists_typeOf (hr : r ∈ x.plan.records) (hchild : child ∈ x.childrenOf r.place)
    (hfield : child.1.node.kind ≠ .field) : ∃ type, x.typeOf child.1 = .ok type := by
  unfold typeOf
  rcases hclosed.types r hr child hchild with hsome | hplain
  · obtain ⟨type, htype⟩ := Option.isSome_iff_exists.1 hsome
    exact ⟨type, by rw [htype]⟩
  · -- only fields are plain
    have hnoted : (child.1.id, none) ∈ x.plan.typeOf :=
      mem_of_lookup (eq_of_beq (show (_ == some none) = true from hplain))
    have hshown : child ∈ hidden.accessors r.place := hplan.children r hr ▸ hchild
    have hplace := Screen.visible_mem_places (hplan.records r hr).1
      (Screen.fst_mem_of_mem_accessors hshown)
    exact absurd (Screen.field_of_plain (hplan.typeHash_of_noted ht hplace hnoted)) hfield

lemma exists_childParts (htype : ∃ type, x.typeOf child.1 = .ok type) :
    ∃ parts, x.childParts child.1 = .ok parts := by
  obtain ⟨type, htype⟩ := htype
  unfold childParts
  rw [bind_of_eq_ok htype]
  dsimp only
  split
  · exact ⟨_, rfl⟩
  · split <;> exact ⟨_, rfl⟩

/-- What is declared, initialized and accessed for children that have types. -/
lemma exists_childSources {children : Accessors}
    (htypes : ∀ child ∈ children, ∃ type, x.typeOf child.1 = .ok type) :
    (∃ lines, x.childDeclarations children = .ok lines) ∧
      (∃ lines, x.childInitializers children = .ok lines) ∧
        ∃ lines, x.childFunctions children = .ok lines := by
  have hparts : ∀ child ∈ children, FailsOnly (fun _ => False) (x.childParts child.1) :=
    fun child hchild => (exists_childParts (htypes child hchild)).elim fun _ => .of_eq_ok
  refine ⟨?_, ?_, ?_⟩ <;> refine FailsOnly.exists_eq_ok ?_
  · exact .mapM fun child hchild => (hparts child hchild).bind fun _ _ => .ok _
  · refine .bind (.mapM fun child hchild => ?_) fun _ _ => .ok _
    exact (hparts child hchild).bind fun _ _ => .ok _
  · refine .bind (.mapM fun child hchild => ?_) fun _ _ => .ok _
    exact (hparts child hchild).bind fun _ _ => .ok _

lemma exists_memorySource (m : MemoryDetail)
    (htypes : ∀ child ∈ x.childrenOf r.place, ∃ type, x.typeOf child.1 = .ok type) :
    ∃ lines, x.memorySource r m = .ok lines := by
  obtain ⟨⟨_, hdeclarations⟩, ⟨_, hinitializers⟩, ⟨_, hfunctions⟩⟩ := exists_childSources htypes
  unfold memorySource
  dsimp only
  rw [bind_of_eq_ok hdeclarations, bind_of_eq_ok hinitializers, bind_of_eq_ok hfunctions]
  exact ⟨_, rfl⟩

lemma exists_containerSource
    (htypes : ∀ child ∈ x.childrenOf r.place, ∃ type, x.typeOf child.1 = .ok type) :
    ∃ lines, x.containerSource r = .ok lines := by
  obtain ⟨⟨_, hdeclarations⟩, ⟨_, hinitializers⟩, ⟨_, hfunctions⟩⟩ := exists_childSources htypes
  unfold containerSource
  dsimp only
  rw [bind_of_eq_ok hdeclarations, bind_of_eq_ok hinitializers, bind_of_eq_ok hfunctions]
  exact ⟨_, rfl⟩

include hclosed in
/-- A field is plain, or the plan has its type. -/
lemma exists_fieldFunction (hr : r ∈ x.plan.records) (hchild : child ∈ x.childrenOf r.place)
    (index : ℕ) : ∃ lines, x.fieldFunction index child.1 child.2 = .ok lines := by
  unfold fieldFunction
  dsimp only
  split
  · exact ⟨_, rfl⟩
  · next hplain =>
    obtain hsome | hplain' := hclosed.types r hr child hchild
    · obtain ⟨type, htype⟩ := Option.isSome_iff_exists.1 hsome
      have htype : x.typeOf child.1 = .ok type := by
        unfold typeOf
        rw [htype]
      exact ⟨_, bind_of_eq_ok htype⟩
    · exact absurd hplain' hplain

include ht hplan hclosed in
/-- The children of a record have types, unless it is of a register. -/
lemma exists_typeOf_of_ne_register (hr : r ∈ x.plan.records)
    (hregister : r.place.node.kind ≠ .register) :
    ∀ child ∈ x.childrenOf r.place, ∃ type, x.typeOf child.1 = .ok type := by
  intro child hchild
  refine exists_typeOf ht hplan hclosed hr hchild fun hfield => hregister ?_
  have hshown : child ∈ hidden.accessors r.place := hplan.children r hr ▸ hchild
  have hcontain := ht.mayContain (Screen.places_subset _ (hplan.records r hr).1)
    (Screen.mem_children_of_visible (Screen.fst_mem_of_mem_accessors hshown))
  rw [hfield] at hcontain
  cases hkind : r.place.node.kind <;> rw [hkind] at hcontain <;> first | rfl | cases hcontain

include ht hsignals hplan hclosed in
/-- Every record of a plan becomes code. -/
lemma exists_recordSource (hr : r ∈ x.plan.records) : ∃ lines, x.recordSource r = .ok lines := by
  have hkind : r.place.node.kind = r.place.node.detail.kind := rfl
  have htypes := exists_typeOf_of_ne_register ht hplan hclosed hr
  unfold recordSource
  cases hdetail : r.place.node.detail with
  | field f => exact ⟨_, rfl⟩
  | register d =>
    dsimp only
    unfold registerSource
    refine FailsOnly.exists_eq_ok (.bind (.mapM ?_) fun _ _ => .ok _)
    rintro ⟨⟨c, accessor⟩, index⟩ hmem
    have hchild := List.fst_mem_of_mem_zipIdx hmem
    obtain ⟨lines, hlines⟩ := exists_fieldFunction hclosed hr hchild index
    exact (FailsOnly.of_eq_ok hlines).bind fun _ _ => .ok _
  | memory m => exact exists_memorySource m (htypes (by rw [hkind, hdetail]; nofun))
  | addressMap => exact exists_containerSource (htypes (by rw [hkind, hdetail]; nofun))
  | registerFile => exact exists_containerSource (htypes (by rw [hkind, hdetail]; nofun))
  | signal =>
    have hsignal : r.place.node.kind = .signal := by rw [hkind, hdetail]; rfl
    exact absurd hsignal (Screen.kind_ne_signal ht hsignals _ (hplan.records r hr).1)

include ht hplan in
/-- The export root has a type. -/
lemma exists_topType : ∃ top, x.topType = .ok top := by
  have htop : x.tree.top ∈ hidden.places x.tree.top := Screen.mem_places_self x.tree.top
  obtain ⟨v, hv⟩ := hplan.top
  have htype := hplan.typeHash_of_noted ht htop hv
  cases v with
  | none =>
    have hfield := Screen.field_of_plain htype
    rw [ht.kind_top] at hfield
    cases hfield
  | some v =>
    obtain ⟨r, -, htypeOf, -⟩ := hplan.typeOf?_eq ht htop hplan.top htype
    refine ⟨r, ?_⟩
    unfold topType typeOf
    rw [htypeOf]

include ht hsignals hplan hclosed in
/-- Every plan becomes the code of a register model, if its export root has an address. -/
theorem modelSource_ends : ∃ lines, EndsIff Stops (x.tree.top.totalOffset < valueCount addressWidth)
    lines x.modelSource := by
  obtain ⟨top, htop⟩ := exists_topType ht hplan
  have hrecords : ∃ types, (x.plan.records.mapM fun r => do pure (Lines.apart (← x.recordSource r))) =
      Except.ok (ε := ExportFault) types := by
    refine FailsOnly.exists_eq_ok (.mapM fun r hr => ?_)
    obtain ⟨lines, hlines⟩ := exists_recordSource ht hsignals hplan hclosed hr
    exact (FailsOnly.of_eq_ok hlines).bind fun _ _ => .ok _
  obtain ⟨types, htypes⟩ := hrecords
  have haddress := ofOverflow_ends x.tree.top.address_ends
  refine ⟨_, EndsIff.iff (EndsIff.bind (.of_eq_ok htypes) ((EndsIff.of_eq_ok htop).bind
    (haddress.map fun base => x.modelHeader ++ x.plan.enums.flatMap (fun e => Lines.apart e.source) ++
      types.flatten ++ Lines.apart (x.buildFunction top base)))) ?_⟩
  rw [true_and, true_and]

end Model

/-! ## The other files -/

section Package

variable {P : ExportFault → Prop}

/-- What the parts of a package can fail with is what the package can fail with. -/
lemma failsOnly_package (hmodel : FailsOnly P x.modelSource) (hresets : FailsOnly P x.resetValues)
    (htop : FailsOnly P x.topType) (hsites : FailsOnly P x.sites) : FailsOnly P x.package := by
  unfold package
  refine hmodel.bind fun model _ => ?_
  refine FailsOnly.bind (hresets.bind fun _ _ => .ok _) fun simulator _ => ?_
  refine FailsOnly.bind (htop.bind fun _ _ => .ok _) fun demo _ => ?_
  refine FailsOnly.bind ?_ fun _ _ => .ok _
  unfold testFiles
  split
  · exact .ok _
  · exact FailsOnly.bind (hsites.bind fun _ _ => .ok _) fun _ _ => .ok _

/-- An address or a count is the only fault of computing it. -/
lemma failsOnly_ofOverflow {α : Type} (y : Except Overflow α) :
    FailsOnly Stops (ExportFault.ofOverflow y) := by
  cases y with
  | ok a => exact .ok a
  | error operation => exact .error ⟨operation, rfl⟩

/-- The walk for reset values fails where a type is missing or an address is too wide, and for nothing
else. -/
lemma failsOnly_resetsIn (fuel : ℕ) (p : Place) (base : ℕ) :
    FailsOnly (fun fault => (∃ path, fault = .missingType path) ∨ Stops fault)
      (x.resetsIn fuel p base) := by
  induction fuel generalizing p base with
  | zero => exact .ok _
  | succ fuel ih =>
    have hstops : ∀ {α : Type} (y : Except Overflow α),
        FailsOnly (fun fault => (∃ path, fault = .missingType path) ∨ Stops fault)
          (ExportFault.ofOverflow y) :=
      fun y => (failsOnly_ofOverflow y).imp fun _ => .inr
    unfold resetsIn
    refine .bind (.mapM ?_) fun _ _ => .ok _
    rintro ⟨c, accessor⟩ -
    unfold childResets
    refine (hstops _).bind fun extent _ => ?_
    obtain ⟨count, stride⟩ := extent
    refine ((failsOnly_typeOf c).imp fun _ => .inl).bind fun type _ => ?_
    refine .bind (.mapM fun i _ => ?_) fun _ _ => .ok _
    refine (hstops _).bind fun first _ => (hstops _).bind fun address _ => ?_
    unfold elementResets
    split
    · exact hstops _
    · exact ih _ _
    · exact ih _ _
    · exact .ok _

/-- The search for sites fails where a type is missing, and for nothing else. -/
lemma failsOnly_sitesIn (fuel : ℕ) (p : Place) (before : List SiteStep) (module : String)
    (depth : ℕ) : FailsOnly (fun fault => ∃ path, fault = .missingType path)
      (x.sitesIn fuel p before module depth) := by
  induction fuel generalizing p before module depth with
  | zero => exact .ok _
  | succ fuel ih =>
    unfold sitesIn
    refine .bind (.mapM ?_) fun _ _ => .ok _
    rintro ⟨c, accessor⟩ -
    refine (failsOnly_typeOf c).bind fun type _ => ?_
    dsimp only
    split
    · exact .ok _
    · exact .ok _
    · exact ih _ _ _ _
    · exact ih _ _ _ _
    · exact .ok _

/-- A plan becomes a package if everything that is shown lies in the address space, and otherwise the
generation stops there. -/
theorem package_ends (ht : x.tree.Loaded) (hsignals : hidden.HidesSignals)
    (hplan : hidden.Plans h x.tree x.plan) (hclosed : x.plan.Closed)
    (hfree : h.CollisionFree (hidden.hashed h x.tree x.tree.top)) :
    ∃ package, EndsIff Stops (hidden.Addressable x.tree.top) package x.package := by
  obtain ⟨model, hmodel⟩ := modelSource_ends ht hsignals hplan hclosed
  obtain ⟨top, htop⟩ := exists_topType ht hplan
  obtain ⟨sites, hsites, -⟩ := exists_sites ht hplan hfree
  have hsimulator := (resetValues_ends ht hplan hfree).map simulatorProgram
  have hdemo : ∃ demo, x.demoSource = .ok demo := ⟨_, bind_of_eq_ok htop⟩
  have htests : ∃ files, x.testFiles = .ok files := by
    unfold testFiles tests
    split
    · exact ⟨_, rfl⟩
    · rw [bind_of_eq_ok hsites]
      exact ⟨_, rfl⟩
  obtain ⟨demo, hdemo⟩ := hdemo
  obtain ⟨files, hfiles⟩ := htests
  refine ⟨_, (hmodel.bind (hsimulator.bind ((EndsIff.of_eq_ok hdemo).bind
    ((EndsIff.of_eq_ok hfiles).map fun files => Package.mk x.packageName
      ((x.mainFiles model (simulatorProgram _) demo ++ files).map fun file =>
        (file.1, file.2.toText)))))).iff ?_⟩
  exact ⟨fun h => h.2.1, fun h => ⟨h.address, h, trivial, trivial⟩⟩

end Package

end Rendering

/-! ## Exports -/

/-- The plan of an export without a predicate of the caller, with what the configuration hides. -/
def exportPlan [RunHash] (t : RegisterTree) (c : ExportConfig) (hide : Hiding) :
    Except ExportFault Plan :=
  ((Export.mk t hide .nothing (.ofConfig c)).plan.run (.empty ())).1

/-- What an export can fail with for its input alone: a configuration that is refused, an export root
that is hidden, or types whose names get in each other's way. -/
inductive ExportFault.OfInput : ExportFault → Prop
  | reserved (name : String) : OfInput (.reservedProperty name)
  | pattern (text : String) : OfInput (.invalidPattern text)
  | hidden (path : String) : OfInput (.topHidden path)
  | names {fault : ExportFault} (h : fault.OfNames) : OfInput fault

lemma failsOnly_validate (c : ExportConfig) : FailsOnly ExportFault.OfInput c.validate := by
  unfold ExportConfig.validate
  split
  · exact .error (.reserved _)
  · exact .ok _

lemma Hiding.failsOnly_ofConfig (c : HideConfig) :
    FailsOnly ExportFault.OfInput (Hiding.ofConfig c) := by
  unfold Hiding.ofConfig
  refine .bind (.mapM fun pattern _ => ?_) fun _ _ => .ok _
  split
  · exact .ok _
  · exact .error (.pattern _)

section Exports

variable [RunHash] {t : RegisterTree} {c : ExportConfig} {hide : Hiding} {plan : Plan}

/-- The plan is that of the nodes that the configuration shows. -/
lemma exportPlan_eq (ht : t.Loaded) :
    exportPlan t c hide = Screen.plan (hide.isHidden t) (.ofConfig c) t :=
  plan_run_empty ht.distinct_top ()

/-- The generation of a package, once the configuration is accepted and the plan is there. -/
lemma generate_of_plan (hvalid : c.validate = .ok ()) (hhide : Hiding.ofConfig c.hide = .ok hide)
    (hplan : exportPlan t c hide = .ok plan) :
    generate t c = (Rendering.mk t plan c).package >>= fun package => pure (plan, package) := by
  unfold generate generateWith
  rw [bind_of_eq_ok hvalid, bind_of_eq_ok hhide]
  exact bind_of_eq_ok hplan

/-- A plan leaves nothing but the types of the walks through types and addresses to be missed. -/
lemma failsOnly_package_of_plan (ht : t.Loaded) (hplan : exportPlan t c hide = .ok plan) :
    FailsOnly (fun fault => (∃ path, fault = .missingType path) ∨ Rendering.Stops fault)
      (Rendering.mk t plan c).package := by
  let x : Rendering := ⟨t, plan, c⟩
  rw [exportPlan_eq ht] at hplan
  obtain ⟨model, hmodel⟩ := Rendering.modelSource_ends (x := x) ht (hide.hidesSignals t)
    (Screen.plans_of_eq_ok ht hplan) (Screen.closed_of_eq_ok ht hplan)
  have hmissing : ∀ {α : Type} {y : Except ExportFault α},
      FailsOnly (fun fault => ∃ path, fault = .missingType path) y →
        FailsOnly (fun fault => (∃ path, fault = .missingType path) ∨ Rendering.Stops fault) y :=
    fun hy => hy.imp fun _ => .inl
  have htop := hmissing (Rendering.failsOnly_typeOf (x := x) x.tree.top)
  refine Rendering.failsOnly_package (hmodel.failsOnly.imp fun _ => .inr) ?_ htop ?_
  · refine htop.bind fun _ _ => ?_
    refine ((Rendering.failsOnly_ofOverflow _).imp fun _ => .inr).bind fun _ _ => ?_
    exact Rendering.failsOnly_resetsIn _ _ _
  · exact htop.bind fun _ _ => hmissing (Rendering.failsOnly_sitesIn _ _ _ _ _)

/-- Where no two hash inputs have one digest, a plan becomes a package if everything that is shown
lies in the address space. -/
lemma package_ends_of_plan (ht : t.Loaded) (hplan : exportPlan t c hide = .ok plan)
    (hfree : (Hasher.ofConfig c).CollisionFree
      (Screen.hashed (hide.isHidden t) (.ofConfig c) t t.top)) :
    ∃ package, EndsIff Rendering.Stops (Screen.Addressable (hide.isHidden t) t.top) package
      (Rendering.mk t plan c).package := by
  rw [exportPlan_eq ht] at hplan
  exact Rendering.package_ends (x := ⟨t, plan, c⟩) ht (hide.hidesSignals t)
    (Screen.plans_of_eq_ok ht hplan) (Screen.closed_of_eq_ok ht hplan) hfree

/-- The export of a tree that is planned, and lies in the address space, has a package. -/
lemma exists_generate_of_plan (ht : t.Loaded) (hvalid : c.validate = .ok ())
    (hhide : Hiding.ofConfig c.hide = .ok hide) (hplan : exportPlan t c hide = .ok plan)
    (hfree : (Hasher.ofConfig c).CollisionFree
      (Screen.hashed (hide.isHidden t) (.ofConfig c) t t.top))
    (hfits : Screen.Addressable (hide.isHidden t) t.top) :
    ∃ package, generate t c = .ok (plan, package) := by
  obtain ⟨package, hpackage⟩ := package_ends_of_plan ht hplan hfree
  exact ⟨package,
    (generate_of_plan hvalid hhide hplan).trans (bind_of_eq_ok (hpackage.ends hfits))⟩

/-- A plan that was computed. -/
lemma exportPlan_of_mem (hmem : plan ∈ (exportPlan t c hide).toOption) :
    exportPlan t c hide = .ok plan := eq_ok_of_mem_toOption hmem

/-- An export fails for its input, or for a plan that does not become a package. -/
lemma failsOnly_generate {P : ExportFault → Prop} (ht : t.Loaded)
    (hinput : ∀ fault : ExportFault, fault.OfInput → P fault)
    (hpackage : ∀ hide plan, Hiding.ofConfig c.hide = .ok hide → exportPlan t c hide = .ok plan →
      FailsOnly P (Rendering.mk t plan c).package) : FailsOnly P (generate t c) := by
  unfold generate generateWith
  refine ((failsOnly_validate c).imp hinput).bind fun _ _ => ?_
  refine ((Hiding.failsOnly_ofConfig c.hide).imp hinput).bind fun hide hhide => ?_
  have hplan : FailsOnly P (exportPlan t c hide) := by
    rw [exportPlan_eq ht]
    refine (Screen.failsOnly_plan ht (hide.hidesSignals t)).imp fun fault hfault => hinput _ ?_
    rcases hfault with rfl | hnames
    · exact .hidden _
    · exact .names hnames
  refine FailsOnly.bind hplan fun plan hplan => ?_
  exact (hpackage hide plan hhide hplan).bind fun _ _ => .ok _

/-- A planned tree renders.  An export of a loaded tree does not meet a kind without a type, an answer
that changed or a field input of two elements that is not that of a plain field, and whatever a
record asks of its plan about its children is there.  Where no two hash inputs have one digest, no
type is missed, and every plan becomes a package, unless something that is shown does not lie in the
address space, where the generation stops at an operation on addresses. -/
theorem planned_tree_renders (ht : t.Loaded) (c : ExportConfig) :
    (∀ path kind, generate t c ≠ .error (.unsupportedKind path kind)) ∧
      (∀ path items, generate t c ≠ .error (.malformedSentinel path items)) ∧
      (∀ path, generate t c ≠ .error (.inconsistentHiding path)) ∧
      ∀ hide, Hiding.ofConfig c.hide = .ok hide →
        (∀ plan, exportPlan t c hide = .ok plan → plan.Closed) ∧
          ((Hasher.ofConfig c).CollisionFree
              (Screen.hashed (hide.isHidden t) (.ofConfig c) t t.top) →
            (∀ path, generate t c ≠ .error (.missingType path)) ∧
              ∀ plan, exportPlan t c hide = .ok plan →
                (Screen.Addressable (hide.isHidden t) t.top →
                  ∃ package, (Rendering.mk t plan c).package = .ok package) ∧
                (¬ Screen.Addressable (hide.isHidden t) t.top → ∃ operation,
                  (Rendering.mk t plan c).package = .error (.overflow operation))) := by
  have hfaults : FailsOnly (fun fault => fault.OfInput ∨ (∃ path, fault = .missingType path) ∨
      Rendering.Stops fault) (generate t c) :=
    failsOnly_generate ht (fun _ => .inl) fun hide plan _ hplan =>
      (failsOnly_package_of_plan ht hplan).imp fun _ => .inr
  -- the three faults are none of those that remain
  have hexcluded : ∀ fault : ExportFault, ¬ fault.OfInput → (∀ path, fault ≠ .missingType path) →
      (∀ operation, fault ≠ .overflow operation) → generate t c ≠ .error fault := by
    intro fault hinput hmissing hstops hfault
    rcases hfaults _ hfault with h | ⟨path, h⟩ | ⟨operation, h⟩
    · exact hinput h
    · exact hmissing path h
    · exact hstops operation h
  refine ⟨fun path kind => hexcluded _ ?_ nofun nofun, fun path items => hexcluded _ ?_ nofun nofun,
    fun path => hexcluded _ ?_ nofun nofun, fun hide hhide => ⟨fun plan hplan => ?_, fun hfree => ?_⟩⟩
  · rintro (_ | _ | _ | ⟨⟨⟩⟩)
  · rintro (_ | _ | _ | ⟨⟨⟩⟩)
  · rintro (_ | _ | _ | ⟨⟨⟩⟩)
  · rw [exportPlan_eq ht] at hplan
    exact Screen.closed_of_eq_ok ht hplan
  · have hrenders := fun plan (hplan : exportPlan t c hide = .ok plan) =>
      package_ends_of_plan ht hplan hfree
    refine ⟨fun path hfault => ?_, fun plan hplan => ?_⟩
    · have hfaults : FailsOnly (fun fault => fault.OfInput ∨ Rendering.Stops fault)
          (generate t c) := by
        refine failsOnly_generate ht (fun _ => .inl) fun hide' plan hhide' hplan => ?_
        cases hhide.symm.trans hhide'
        obtain ⟨package, hpackage⟩ := hrenders plan hplan
        exact hpackage.failsOnly.imp fun _ => .inr
      rcases hfaults _ hfault with hinput | ⟨_, hstops⟩
      · cases hinput with
        | names hnames => cases hnames
      · cases hstops
    · obtain ⟨package, hpackage⟩ := hrenders plan hplan
      refine ⟨fun hfits => ⟨package, hpackage.ends hfits⟩, fun hnot => ?_⟩
      obtain ⟨_, ⟨operation, rfl⟩, hstop⟩ := hpackage.fails hnot
      exact ⟨operation, hstop⟩

end Exports

section

attribute [local instance] Export.smallRun

/-- An address map of a register with an enumerated field, of a signal, and of a register of the same
shape with a hidden field besides. -/
def mappedDescription : Description :=
  let mode : Description := .mk { (default : Attributes) with
    kind := .field, instName := "mode", lsb := some 0, msb := some 1,
    encoding := some ⟨.ofPairs "m" [(2, "on")], none⟩ } []
  .group .addressMap "top" 0
    [.register "r" 0 [mode], .group .signal "irq" 0 [],
      .register "s" 4 [mode, .field "x" 4 7 .readWrite [(hideProperty, .flag true)]]]

/-- A tree with shared, enumerated and hidden parts has a plan, which is closed and becomes a
package. -/
theorem mapped_tree_renders : mappedDescription.tree.Loaded ∧
    ∃ plan package, exportPlan mappedDescription.tree {} ⟨true, []⟩ = .ok plan ∧ plan.Closed ∧
      (Rendering.mk mappedDescription.tree plan {}).package = .ok package := by
  have ht : mappedDescription.tree.Loaded := Description.loaded_tree (by decide +kernel)
  have hplan : ∃ plan ∈ (exportPlan mappedDescription.tree {} ⟨true, []⟩).toOption,
      plan.records.length = 3 ∧ plan.enums.length = 1 := by
    decide +kernel
  have hfree : (Hasher.ofConfig {}).CollisionFree
      (Screen.hashed (Hiding.isHidden ⟨true, []⟩ mappedDescription.tree) (.ofConfig {})
        mappedDescription.tree mappedDescription.tree.top) := by
    decide +kernel
  have hfits : Screen.Addressable (Hiding.isHidden ⟨true, []⟩ mappedDescription.tree)
      mappedDescription.tree.top := by
    decide +kernel
  obtain ⟨plan, hmem, -⟩ := hplan
  have hplan := exportPlan_of_mem hmem
  obtain ⟨-, -, -, hrest⟩ := planned_tree_renders ht {}
  obtain ⟨hclosed, hrenders⟩ := hrest ⟨true, []⟩ rfl
  obtain ⟨package, hpackage⟩ := ((hrenders hfree).2 plan hplan).1 hfits
  exact ⟨ht, plan, package, hplan, hclosed plan hplan, hpackage⟩

/-- A register and a register file whose types have different shapes, one name and one digest. -/
def collidingDescription : Description :=
  .group .addressMap "top" 0
    [.mk { (default : Attributes) with
        kind := .register, instName := "r", typeName := some "t", name := some "r",
        registerWidth := some 64 } [.resetField "f" 0 63 7298185228647812899],
      .mk { (default : Attributes) with
        kind := .registerFile, instName := "b", typeName := some "t",
        name := some "a block of control features", desc := some "73c4591994ced71a",
        offset := 64 } []]

/-- A tree that is planned by the usual configuration may not render.  With two types of one digest,
the register file is taken for the register, whose field has no type.  Without any, the walk for reset
values may come to an element behind the last address. -/
theorem planned_trees_need_not_render :
    (collidingDescription.tree.Loaded ∧
      ∃ plan, exportPlan collidingDescription.tree {} ⟨true, []⟩ = .ok plan ∧
        (Rendering.mk collidingDescription.tree plan {}).package =
          .error (.missingType "top.r.f") ∧
        generate collidingDescription.tree {} = .error (.missingType "top.r.f")) ∧
      Export.bufferAtEnd.Loaded ∧
        ∃ plan, exportPlan Export.bufferAtEnd {} ⟨true, []⟩ = .ok plan ∧
          (Rendering.mk Export.bufferAtEnd plan {}).package = .error (.overflow .sum) := by
  have hcolliding : ∃ plan ∈ (exportPlan collidingDescription.tree {} ⟨true, []⟩).toOption,
      (Rendering.mk collidingDescription.tree plan {}).package =
        .error (.missingType "top.r.f") := by
    decide +kernel
  have hbuffer : ∃ plan ∈ (exportPlan Export.bufferAtEnd {} ⟨true, []⟩).toOption,
      (Rendering.mk Export.bufferAtEnd plan {}).package = .error (.overflow .sum) := by
    decide +kernel
  obtain ⟨plan, hmem, hpackage⟩ := hcolliding
  obtain ⟨plan', hmem', hpackage'⟩ := hbuffer
  have hplan := exportPlan_of_mem hmem
  have hvalid : ExportConfig.validate {} = .ok () := rfl
  have hhide : Hiding.ofConfig (ExportConfig.hide {}) = .ok ⟨true, []⟩ := rfl
  refine ⟨⟨Description.loaded_tree (by decide +kernel), plan, hplan, hpackage, ?_⟩,
    Description.loaded_tree (by decide +kernel), plan', exportPlan_of_mem hmem', hpackage'⟩
  rw [generate_of_plan hvalid hhide hplan, hpackage]
  rfl

end

end RegisterMap
