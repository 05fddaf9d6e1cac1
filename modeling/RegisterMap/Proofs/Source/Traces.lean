import Mathlib
import RegisterMap.Proofs.Export.Deletion
import RegisterMap.Proofs.Export.PlanOrder
import RegisterMap.Proofs.Export.Walk
import RegisterMap.Proofs.Source.Demonstration
import RegisterMap.Proofs.Source.Restricted
import RegisterMap.Proofs.Source.Sites

/-!
# Traces of hidden nodes

Almost everything of a generated package is the same whether the hidden nodes of a tree are deleted
or not.  The exception is the demonstration program.  It reads the first register of the export root
that is readable, and for that it looks at all fields of the register, hidden or not.  So the
packages are the same exactly when the register that is read has a readable field that is shown
(`package_pruned_iff`).
-/

namespace RegisterMap

namespace Hiding

/-- The place shows a readable field. -/
def showsReadable (hide : Hiding) (t : RegisterTree) (p : Place) : Bool :=
  (hide.visibleChildren t p).any fun c => c.node.detail.field?.any (·.access.readable)

end Hiding

lemma Place.readable_node (p : Place) :
    p.node.readable = p.children.any fun c => c.node.detail.field?.any (·.access.readable) := by
  unfold Node.readable Node.fields Place.children
  rw [List.any_filterMap, List.any_map]
  refine congrArg p.node.children.any (funext fun n => ?_)
  cases hfield : n.detail.field? <;> simp [hfield]

/-! ## Names in a plan -/

section Names

variable {hide : Hiding} {h : Hasher} {t : RegisterTree} {plan : Plan}

/-- Records are of places in the export root, and what is noted as shown in them is shown there. -/
lemma shown_of_plan (ht : t.Loaded) (hplan : hide.plan h t = .ok plan) :
    ∀ r ∈ plan.records, r.place ∈ t.top.subtree ∧
      ∀ child ∈ plan.childrenOf r.place.id,
        plan.childrenOf r.place.id = hide.accessors t r.place := by
  unfold Hiding.plan at hplan
  split at hplan
  · cases hplan
  have hnumbered := ht.numbered_top
  have facts : Walk.Facts Outcomes.plain h t (hide.queries t) t.top (· ∈ t.top.subtree)
      (fun _ _ => True) (fun p children => children = hide.accessors t p) :=
    { numbered := hnumbered
      inTree := fun _ hp => hp
      child := fun p _ c hp _ hc _ => Place.children_mem_subtree hp hc
      type := fun p hp _ _ => trivial
      children := fun p hp children hchildren => (Except.ok.inj hchildren).symm }
  obtain ⟨w, rfl, hsound⟩ := Walk.holds_planned facts t.top.mem_subtree_self plan hplan
  exact fun r hr => ⟨(hsound.records r hr).1, fun child hchild =>
    hsound.childrenOf hnumbered (fun _ h => h) hr hchild⟩

lemma map_snd_accessors (p : Place) : (hide.accessors t p).map Prod.snd =
    accessorNames p.node.kind ((hide.visibleChildren t p).map (·.node)) := by
  refine List.map_snd_zip ?_
  simp

/-- The accessor names in a type differ, and calls of them show where they end. -/
lemma names_of_plan (ht : t.Loaded) (hplan : hide.plan h t = .ok plan) {r : TypeRecord}
    (hr : r ∈ plan.records) : ((plan.childrenOf r.place.id).map Prod.snd).Nodup ∧
      ∀ child ∈ plan.childrenOf r.place.id, Unparenthesized child.2 := by
  rcases hchildren : plan.childrenOf r.place.id with _ | ⟨child, rest⟩
  · exact ⟨List.nodup_nil, nofun⟩
  · have hshown := ((shown_of_plan ht hplan) r hr).2 child (hchildren ▸ List.mem_cons_self)
    rw [← hchildren, hshown, map_snd_accessors]
    refine ⟨freshNames_nodup _ _, fun child' hchild' => ?_⟩
    have hname : child'.2 ∈ (hide.accessors t r.place).map Prod.snd := List.mem_map_of_mem hchild'
    rw [map_snd_accessors] at hname
    exact unparenthesized_accessorNames hname

end Names

/-! ## The register that is read -/

variable {R : Restriction} {hide : Hiding} {t : RegisterTree} {x : Rendering} {p : Place}

/-- A narrower search finds what a wider one finds, exactly when what the wider one finds passes the
narrower test. -/
lemma map_find?_eq_iff {α β : Type} {l : List (α × β)} {wide narrow : α × β → Bool}
    (hl : (l.map Prod.snd).Nodup) (hnarrow : ∀ a ∈ l, narrow a = true → wide a = true) :
    (l.find? narrow).map Prod.snd = (l.find? wide).map Prod.snd ↔
      ∀ a, l.find? wide = some a → narrow a = true := by
  induction l with
  | nil => simp
  | cons a rest ih =>
    rw [List.map_cons, List.nodup_cons] at hl
    have hrest := ih hl.2 fun b hb => hnarrow b (List.mem_cons_of_mem _ hb)
    have ha := hnarrow a List.mem_cons_self
    rw [List.find?_cons, List.find?_cons]
    cases hwide : wide a with
    | false =>
      have hfalse : narrow a = false := by
        rw [Bool.eq_false_iff]
        exact fun h => Bool.false_ne_true (hwide.symm.trans (ha h))
      rw [hfalse]
      exact hrest
    | true =>
      cases hpasses : narrow a with
      | true => simp [hpasses]
      | false =>
        constructor
        · intro heq
          obtain ⟨b, hb, hsnd⟩ := Option.map_eq_some_iff.1 heq
          exact absurd (hsnd ▸ List.mem_map_of_mem (List.mem_of_find?_eq_some hb)) hl.1
        · intro hall
          exact absurd (hall a rfl) (by simp [hpasses])

namespace Restriction


/-- A register that is left is readable when it showed a readable field. -/
lemma readable_place (hR : R.KeepsShown hide t) (hp : p ∈ t.top.subtree) :
    (R.place p).node.readable = hide.showsReadable t p := by
  have hkept : p.children.filter R.keep = hide.visibleChildren t p :=
    List.filter_congr fun c hc => hR c (Place.children_mem_subtree hp hc)
  rw [Place.readable_node, children_place, hkept, List.any_map, Hiding.showsReadable]
  simp only [Function.comp_def, detail_place]

lemma readable_of_showsReadable (h : hide.showsReadable t p = true) : p.node.readable = true := by
  rw [Place.readable_node]
  obtain ⟨c, hc, hread⟩ := List.any_eq_true.1 h
  exact List.any_eq_true.2 ⟨c, List.mem_of_mem_filter hc, hread⟩

end Restriction

namespace Rendering

/-- The child is a single register with a readable type, when these are the readable ones. -/
def reads (x : Rendering) (readable : Place → Bool) (child : Place × String) : Bool :=
  child.1.node.kind == .register && child.1.node.component.array.isNone &&
    (x.plan.typeOf? child.1.id).any fun r => readable r.place

/-- The register that the demonstration reads, if it reads one, shows a readable field. -/
def ReadsShown (x : Rendering) (hide : Hiding) : Prop :=
  ∀ top accessor, x.topType = .ok top → x.demoRegister top = some accessor →
    ∃ child r, (child, accessor) ∈ x.childrenOf top.place ∧ x.plan.typeOf? child.id = some r ∧
      hide.showsReadable x.tree r.place = true

lemma reads_iff {readable : Place → Bool} {child : Place × String} :
    x.reads readable child = true ↔
      (child.1.node.kind == .register && child.1.node.component.array.isNone) = true ∧
        ∃ r, x.plan.typeOf? child.1.id = some r ∧ readable r.place = true := by
  rw [reads, Bool.and_eq_true, Option.any_eq_true]

lemma demoRegister_eq (top : TypeRecord) : x.demoRegister top =
    ((x.childrenOf top.place).find? (x.reads (·.node.readable))).map Prod.snd := rfl

end Rendering

namespace Restriction

/-- Among what is left, the demonstration reads the first register that shows a readable field. -/
lemma demoRegister_rendering (hR : R.KeepsShown hide x.tree)
    (hplaces : ∀ r ∈ x.plan.records, r.place ∈ x.tree.top.subtree) (top : TypeRecord) :
    (R.rendering x).demoRegister (R.record top) =
      ((x.childrenOf top.place).find? (x.reads (hide.showsReadable x.tree))).map Prod.snd := by
  have htest : ∀ child : Place × String,
      (R.rendering x).reads (·.node.readable) (R.place child.1, child.2) =
        x.reads (hide.showsReadable x.tree) child := by
    intro child
    have htype : (R.rendering x).plan.typeOf? (R.place child.1).id =
        (x.plan.typeOf? child.1.id).map R.record := by
      rw [id_place]
      exact typeOf?_plan x.plan child.1.id
    unfold Rendering.reads
    rw [htype, kind_place, component_place]
    refine congrArg (Bool.and _) ?_
    cases hr : x.plan.typeOf? child.1.id with
    | none => rfl
    | some r => exact readable_place hR (hplaces r (Walk.typeOf?_eq_some hr).1)
  rw [Rendering.demoRegister_eq, place_record, childrenOf_rendering, accessors, List.find?_map,
    Option.map_map]
  exact congrArg (fun test => ((x.childrenOf top.place).find? test).map Prod.snd) (funext htest)

/-- The demonstrations read the same register exactly when it shows a readable field. -/
lemma demoRegister_rendering_iff (hR : R.KeepsShown hide x.tree)
    (hplaces : ∀ r ∈ x.plan.records, r.place ∈ x.tree.top.subtree) {top : TypeRecord}
    (hnames : ((x.childrenOf top.place).map Prod.snd).Nodup) :
    (R.rendering x).demoRegister (R.record top) = x.demoRegister top ↔
      ∀ accessor, x.demoRegister top = some accessor → ∃ child r,
        (child, accessor) ∈ x.childrenOf top.place ∧ x.plan.typeOf? child.id = some r ∧
          hide.showsReadable x.tree r.place = true := by
  have hweaker : ∀ child ∈ x.childrenOf top.place,
      x.reads (hide.showsReadable x.tree) child = true → x.reads (·.node.readable) child = true := by
    intro child _ hreads
    obtain ⟨hsingle, r, hr, hshows⟩ := Rendering.reads_iff.1 hreads
    exact Rendering.reads_iff.2 ⟨hsingle, r, hr, readable_of_showsReadable hshows⟩
  rw [demoRegister_rendering hR hplaces, Rendering.demoRegister_eq, map_find?_eq_iff hnames hweaker]
  constructor
  · intro hall accessor haccessor
    obtain ⟨child, hfound, rfl⟩ := Option.map_eq_some_iff.1 haccessor
    obtain ⟨-, r, hr, hshows⟩ := Rendering.reads_iff.1 (hall child hfound)
    exact ⟨child.1, r, List.mem_of_find?_eq_some hfound, hr, hshows⟩
  · rintro hall ⟨child, accessor⟩ hfound
    obtain ⟨child', r, hmem, hr, hshows⟩ := hall accessor (by rw [hfound]; rfl)
    -- the names differ, so it is the same child
    have hsame := List.inj_on_of_nodup_map hnames hmem (List.mem_of_find?_eq_some hfound) rfl
    obtain rfl := congrArg Prod.fst hsame
    exact Rendering.reads_iff.2
      ⟨(Rendering.reads_iff.1 (List.find?_some hfound)).1, r, hr, hshows⟩

end Restriction

/-! ## Packages -/

namespace Rendering

/-- The package with a demonstration that reads a register. -/
def packageWith (x : Rendering) (model simulator : Lines) (testFiles : List (String × Lines))
    (register : Option String) : Package :=
  let demo := x.demoProgram ((register.map x.demoRead).getD [])
  ⟨x.packageName, (x.mainFiles model simulator demo ++ testFiles).map fun (path, source) =>
    (path, source.toText)⟩

/-- The package with a demonstration that reads this register of the export root. -/
def packageReading (x : Rendering) (register : TypeRecord → Option String) :
    Except ExportFault Package := do
  let model ← x.modelSource
  let simulator ← x.simulatorSource
  let top ← x.topType
  let testFiles ← x.testFiles
  pure (x.packageWith model simulator testFiles (register top))

lemma package_eq : x.package = x.packageReading x.demoRegister := by
  unfold package packageReading demoSource
  simp only [bind_assoc, pure_bind]
  rfl

lemma packageWith_inj {model simulator : Lines} {testFiles : List (String × Lines)}
    {a b : Option String} (ha : ∀ name ∈ a, Unparenthesized name)
    (hb : ∀ name ∈ b, Unparenthesized name)
    (h : x.packageWith model simulator testFiles a = x.packageWith model simulator testFiles b) :
    a = b := by
  have hfiles := congrArg Package.files h
  have htext : (x.demoProgram ((a.map x.demoRead).getD [])).toText =
      (x.demoProgram ((b.map x.demoRead).getD [])).toText := by
    simpa [packageWith, mainFiles] using hfiles
  exact demoText_inj ha hb htext

/-- Packages are the same exactly when the demonstrations read the same register. -/
lemma packageReading_eq_iff {f g : TypeRecord → Option String}
    (hf : ∀ top, x.topType = .ok top → ∀ name ∈ f top, Unparenthesized name)
    (hg : ∀ top, x.topType = .ok top → ∀ name ∈ g top, Unparenthesized name) :
    x.packageReading f = x.packageReading g ↔ ∀ package top, x.packageReading g = .ok package →
      x.topType = .ok top → f top = g top := by
  unfold packageReading
  cases x.modelSource with
  | error e => exact ⟨nofun, fun _ => rfl⟩
  | ok model =>
  cases x.simulatorSource with
  | error e => exact ⟨nofun, fun _ => rfl⟩
  | ok simulator =>
  cases htop : x.topType with
  | error e => exact ⟨nofun, fun _ => rfl⟩
  | ok top =>
  cases x.testFiles with
  | error e => exact ⟨nofun, fun _ => rfl⟩
  | ok testFiles =>
    change Except.ok (x.packageWith model simulator testFiles (f top)) =
      .ok (x.packageWith model simulator testFiles (g top)) ↔ _
    constructor
    · rintro heq - top' - htop'
      obtain rfl := Except.ok.inj htop'
      exact packageWith_inj (hf top htop) (hg top htop) (Except.ok.inj heq)
    · intro hall
      have hsame : f top = g top := hall _ top rfl rfl
      rw [hsame]

end Rendering

namespace Restriction

lemma testFiles_rendering : (R.rendering x).testFiles = x.testFiles := by
  unfold Rendering.testFiles
  rw [tests_rendering]
  rfl

@[simp] lemma packageName_rendering : (R.rendering x).packageName = x.packageName := by
  unfold Rendering.packageName
  rw [topModule_rendering]
  rfl

@[simp] lemma mainFiles_rendering (model simulator demo : Lines) :
    (R.rendering x).mainFiles model simulator demo = x.mainFiles model simulator demo := by
  unfold Rendering.mainFiles Rendering.manifest Rendering.libraryRoot Rendering.modelRoot
  rw [packageName_rendering, topModule_rendering, topName_rendering]
  rfl

@[simp] lemma demoProgram_rendering (read : Lines) :
    (R.rendering x).demoProgram read = x.demoProgram read := by
  unfold Rendering.demoProgram Rendering.packageIdentifier
  rw [packageName_rendering]

@[simp] lemma packageWith_rendering (model simulator : Lines) (testFiles : List (String × Lines))
    (register : Option String) : (R.rendering x).packageWith model simulator testFiles register =
      x.packageWith model simulator testFiles register := by
  unfold Rendering.packageWith
  simp only [packageName_rendering, demoProgram_rendering, mainFiles_rendering]
  rfl

/-- The package of what is left differs at most in the register that the demonstration reads. -/
lemma package_rendering : (R.rendering x).package =
    x.packageReading fun top => (R.rendering x).demoRegister (R.record top) := by
  rw [Rendering.package_eq]
  unfold Rendering.packageReading
  rw [modelSource_rendering, simulatorSource_rendering, topType_rendering, testFiles_rendering]
  simp only [bind_map_ok, packageWith_rendering]

end Restriction

/-- The register that a demonstration reads has the accessor of a shown child. -/
lemma Rendering.mem_of_find_reads {readable : Place → Bool} {top : TypeRecord} {accessor : String}
    (h : ((x.childrenOf top.place).find? (x.reads readable)).map Prod.snd = some accessor) :
    ∃ child ∈ x.childrenOf top.place, child.2 = accessor := by
  obtain ⟨child, hfound, rfl⟩ := Option.map_eq_some_iff.1 h
  exact ⟨child, List.mem_of_find?_eq_some hfound, rfl⟩

/-- What is left is rendered like the tree exactly when the register that the demonstration of the
tree reads shows a readable field. -/
theorem Restriction.package_rendering_iff {h : Hasher} (ht : x.tree.Loaded)
    (hR : R.KeepsShown hide x.tree) (hplan : hide.plan h x.tree = .ok x.plan) :
    (R.rendering x).package = x.package ↔
      ∀ package, x.package = .ok package → x.ReadsShown hide := by
  have hplaces : ∀ r ∈ x.plan.records, r.place ∈ x.tree.top.subtree := fun r hr =>
    (shown_of_plan ht hplan r hr).1
  have hnames := fun top (htop : x.topType = .ok top) =>
    names_of_plan ht hplan (Rendering.typeOf_eq_ok htop)
  have hread : ∀ readable top, x.topType = .ok top → ∀ name ∈
      ((x.childrenOf top.place).find? (x.reads readable)).map Prod.snd, Unparenthesized name := by
    intro readable top htop name hname
    obtain ⟨child, hchild, rfl⟩ := Rendering.mem_of_find_reads hname
    exact (hnames top htop).2 child hchild
  have hleft : ∀ top, x.topType = .ok top →
      ∀ name ∈ (R.rendering x).demoRegister (R.record top), Unparenthesized name := by
    intro top htop
    rw [demoRegister_rendering hR hplaces]
    exact hread _ top htop
  have hright : ∀ top, x.topType = .ok top → ∀ name ∈ x.demoRegister top, Unparenthesized name :=
    hread (·.node.readable)
  rw [package_rendering, Rendering.package_eq, Rendering.packageReading_eq_iff hleft hright]
  have hsame := fun top (htop : x.topType = .ok top) =>
    demoRegister_rendering_iff hR hplaces (hnames top htop).1
  constructor
  · intro hregisters package hpackage top accessor htop haccessor
    exact (hsame top htop).1 (hregisters package top hpackage htop) accessor haccessor
  · intro hreads package top hpackage htop
    exact (hsame top htop).2 fun accessor => hreads package hpackage top accessor htop

/-! ## Exports -/

section Exports

variable {c : ExportConfig} {number : ℕ → ℕ} {injective : Function.Injective number}

/-- The generation of a package, planned without a memory. -/
lemma generate_eq [RunHash] (ht : t.top.Distinct) (hhide : Hiding.ofConfig c.hide = .ok hide) :
    generate t c = (do
      c.validate
      let plan ← hide.plan (.ofConfig c) t
      let package ← (Rendering.mk t plan c).package
      pure (plan, package)) := by
  unfold generate generateWith
  rw [hhide]
  simp only [plan_run_empty ht]
  rfl

lemma map_snd_pair {α β : Type} (a : α) (y : Except ExportFault β) :
    (y >>= fun b => pure (a, b)).map Prod.snd = y := by
  cases y <;> rfl

lemma pair_eq_ok {α β : Type} {a a' : α} {b : β} {y : Except ExportFault β}
    (h : (y >>= fun b => pure (a, b)) = .ok (a', b)) : a = a' ∧ y = .ok b := by
  cases y with
  | error e => cases h
  | ok b' => cases h; exact ⟨rfl, rfl⟩

/-- A tree and the tree without its hidden nodes have the same package exactly when the register
that the demonstration reads has a readable field that is shown. -/
theorem package_pruned_iff [RunHash] (ht : t.Loaded) (hhide : Hiding.ofConfig c.hide = .ok hide)
    (htop : hide.isHidden t t.top = false) :
    (generate (t.pruned hide number injective) c).map Prod.snd = (generate t c).map Prod.snd ↔
      ∀ plan package, generate t c = .ok (plan, package) →
        (Rendering.mk t plan c).ReadsShown hide := by
  have hkeeps : (t.pruning hide number injective).KeepsShown hide t :=
    RegisterTree.keepsShown_pruning ht
  have hdistinct := ht.distinct_top
  have htree : hide.plan (.ofConfig c) (t.pruned hide number injective) =
      (hide.plan (.ofConfig c) t).map (t.pruning hide number injective).plan :=
    Restriction.plan_tree hdistinct hkeeps htop
  rw [generate_eq hdistinct hhide, generate_eq (Restriction.distinct_place hdistinct) hhide, htree]
  cases c.validate with
  | error e => exact ⟨nofun, fun _ => rfl⟩
  | ok _ =>
  cases hplan : hide.plan (.ofConfig c) t with
  | error e => exact ⟨nofun, fun _ => rfl⟩
  | ok plan =>
    have hpackage := Restriction.package_rendering_iff (x := ⟨t, plan, c⟩) ht hkeeps hplan
    change Except.map _ (((t.pruning hide number injective).rendering ⟨t, plan, c⟩).package >>= _) =
      Except.map _ ((Rendering.mk t plan c).package >>= _) ↔ _
    rw [map_snd_pair, map_snd_pair, hpackage]
    constructor
    · intro hreads plan' package hgenerated
      obtain ⟨rfl, hrendered⟩ := pair_eq_ok hgenerated
      exact hreads package hrendered
    · intro hreads package hrendered
      refine hreads plan package ?_
      change ((Rendering.mk t plan c).package >>= _) = _
      rw [hrendered]
      rfl

end Exports

/-! ## Small exports -/

section

attribute [local instance] Export.smallRun

/-- An address map with one register, whose fields are a hidden one that can only be read and one
with this access. -/
def hiddenStatus (access : Access) : Description :=
  .group .addressMap "top" 0 [.register "c" 0
    [.field "s" 0 3 .readOnly [(hideProperty, .flag true)], .field "w" 4 7 access []]]

/-- Next to a readable field that is shown, the hidden one leaves no trace. -/
theorem shown_field_is_read : (generate ((hiddenStatus .readWrite).tree.pruned ⟨true, []⟩ id
      Function.injective_id) {}).map Prod.snd =
    (generate (hiddenStatus .readWrite).tree {}).map Prod.snd := by
  have ht : (hiddenStatus .readWrite).tree.Loaded := Description.loaded_tree (by decide +kernel)
  have hhide : Hiding.ofConfig ({} : ExportConfig).hide = .ok ⟨true, []⟩ := rfl
  refine (package_pruned_iff ht hhide (by decide +kernel)).2 ?_
  have hreads : ∃ result ∈ (generate (hiddenStatus .readWrite).tree {}).toOption,
      ∃ top ∈ (Rendering.mk (hiddenStatus .readWrite).tree result.1 {}).topType.toOption,
      ∃ name ∈ (Rendering.mk (hiddenStatus .readWrite).tree result.1 {}).demoRegister top,
      ∃ child ∈ result.1.childrenOf top.place.id, child.2 = name ∧
      ∃ r ∈ result.1.typeOf? child.1.id,
        Hiding.showsReadable ⟨true, []⟩ (hiddenStatus .readWrite).tree r.place = true := by
    decide +kernel
  obtain ⟨result, hresult, top, htop, name, hname, child, hchild, rfl, r, hr, hshows⟩ := hreads
  intro plan package hgenerated top' accessor htop' haccessor
  rw [hgenerated] at hresult
  obtain rfl := Option.some.inj hresult
  rw [htop'] at htop
  obtain rfl := Option.some.inj htop
  rw [Option.mem_def, haccessor] at hname
  obtain rfl := Option.some.inj hname
  exact ⟨child.1, r, hchild, hr, hshows⟩

/-- What is left of it without the hidden field, if the other one can only be written. -/
def writtenOnly : Description :=
  .group .addressMap "top" 0 [.register "c" 0 [.field "w" 4 7 .writeOnly []]]

/-- The demonstration program in a package, if there is one. -/
def demonstration (package : Except ExportFault Package) : Option String :=
  package.toOption.bind (·.file? "demos/demo.rs")

/-- Next to a field that can only be written, the demonstration reads the hidden one. -/
theorem hidden_field_is_read : (hiddenStatus .writeOnly).tree.Loaded ∧
    Hiding.isHidden ⟨true, []⟩ (hiddenStatus .writeOnly).tree (hiddenStatus .writeOnly).tree.top =
      false ∧
    (hiddenStatus .writeOnly).tree.pruned ⟨true, []⟩ (Equiv.swap 2 3) (Equiv.injective _) =
      writtenOnly.tree ∧
    (generate writtenOnly.tree {}).map Prod.snd ≠
      (generate (hiddenStatus .writeOnly).tree {}).map Prod.snd := by
  refine ⟨Description.loaded_tree (by decide +kernel), by decide +kernel, rfl, fun heq => ?_⟩
  have hdemonstration : demonstration ((generate writtenOnly.tree {}).map Prod.snd) ≠
      demonstration ((generate (hiddenStatus .writeOnly).tree {}).map Prod.snd) := by decide +kernel
  exact hdemonstration (congrArg demonstration heq)

end

end RegisterMap
