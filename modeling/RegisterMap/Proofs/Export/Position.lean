import Mathlib
import RegisterMap.Proofs.Export.Faults
import RegisterMap.Proofs.Export.Pruning

/-!
# The hash of a shape does not tell where a node is

Two nodes have one shape if they say the same but for their names, their offsets, the shapes of
their arrays and the reserved properties, and if what is in them is the same in every respect
(`Node.SameShape`).  The numbers of nodes do not count anywhere.  Under a configuration that hides
nothing by its path, nodes of one shape have one hash, in whatever trees and at whatever places they
are, whatever the export roots are and whatever the exports were asked before
(`Export.sameShape_typeHash`).

The induction is on the place of one of the nodes.  Nodes that are the same are hidden alike, so the
children that are shown correspond, with the same accessor names, and contribute the same items.
A signal has no hash, and the fault that says so names the path of the signal; so signals are the
one kind of node of which the answer tells the place (`signals_fail_by_path`).
-/

namespace RegisterMap

variable {c c' : Component} {n m : Node} {p q : Place}

/-! ## Nodes that say the same -/

/-- The components say the same, but for where the nodes are: their names, their offsets, the shapes
of arrays and the reserved properties do not count. -/
structure Component.SameShape (c c' : Component) : Prop where
  typeName : c.typeName = c'.typeName
  scopePath : c.scopePath = c'.scopePath
  name : c.name = c'.name
  desc : c.desc = c'.desc
  array : c.array.isSome = c'.array.isSome
  properties : ∀ key, key ∉ reservedProperties →
    Properties.get? c.properties key = Properties.get? c'.properties key
  detail : c.detail = c'.detail

/-- The components say the same. -/
structure Component.Same (c c' : Component) : Prop where
  shape : c.SameShape c'
  instName : c.instName = c'.instName
  offset : c.offset = c'.offset
  array : c.array = c'.array
  properties : ∀ key, Properties.get? c.properties key = Properties.get? c'.properties key

/-- The nodes are the same but for their numbers. -/
inductive Node.Same : Node → Node → Prop
  | mk {id id' : ℕ} {c c' : Component} {cs cs' : List Node} (component : c.Same c')
      (children : List.Forall₂ Node.Same cs cs') : Node.Same (.mk id c cs) (.mk id' c' cs')

/-- The nodes are the same but for their numbers and for where they are. -/
structure Node.SameShape (n m : Node) : Prop where
  component : n.component.SameShape m.component
  children : List.Forall₂ Node.Same n.children m.children

namespace Component

lemma Same.refl (c : Component) : c.Same c where
  shape := ⟨rfl, rfl, rfl, rfl, rfl, fun _ _ => rfl, rfl⟩
  instName := rfl
  offset := rfl
  array := rfl
  properties _ := rfl

lemma SameShape.kind (h : c.SameShape c') : c.kind = c'.kind := congrArg Detail.kind h.detail

lemma SameShape.typeKey (h : c.SameShape c') : c.typeKey = c'.typeKey := by
  unfold Component.typeKey Component.baseTypeName
  rw [h.scopePath, h.typeName, h.kind]

end Component

namespace Node

mutual

theorem Same.refl : ∀ n : Node, n.Same n
  | .mk _ c cs => .mk (.refl c) (Same.refls cs)

theorem Same.refls : ∀ cs : List Node, List.Forall₂ Node.Same cs cs
  | [] => .nil
  | n :: rest => .cons (Same.refl n) (Same.refls rest)

end

lemma Same.component (h : n.Same m) : n.component.Same m.component := by
  obtain ⟨hcomponent, -⟩ := h
  exact hcomponent

lemma Same.sameShape (h : n.Same m) : n.SameShape m := by
  obtain ⟨hcomponent, hchildren⟩ := h
  exact ⟨hcomponent.shape, hchildren⟩

lemma SameShape.kind (h : n.SameShape m) : n.kind = m.kind := h.component.kind

lemma SameShape.detail (h : n.SameShape m) : n.detail = m.detail := h.component.detail

lemma Same.property? (h : n.Same m) (name : String) : n.property? name = m.property? name :=
  h.component.properties name

lemma Same.accessorBase (h : n.Same m) : n.accessorBase = m.accessorBase := by
  have hname : n.instName = m.instName := h.component.instName
  rw [Node.accessorBase, Node.accessorBase, h.property?, hname]

/-- The places of the children correspond. -/
lemma SameShape.places (h : p.node.SameShape q.node) :
    List.Forall₂ (fun c d : Place => c.node.Same d.node) p.children q.children := by
  unfold Place.children
  rw [List.forall₂_map_left_iff, List.forall₂_map_right_iff]
  exact h.children

end Node

/-! ## What is shown -/

/-- Two decisions hide nodes alike that are the same. -/
def Screen.Blind (hidden hidden' : Screen) : Prop :=
  ∀ p q : Place, p.node.Same q.node → hidden p = hidden' q

/-- Without patterns nothing is hidden by its path. -/
lemma Hiding.hidesNode_eq {hide : Hiding} (hpatterns : hide.patterns = []) (t t' : RegisterTree)
    (h : p.node.Same q.node) : hide.hidesNode t p = hide.hidesNode t' q := by
  simp [Hiding.hidesNode, Hiding.marked, hpatterns, h.property?]

/-- Without patterns it does not count where a node is for whether it is hidden. -/
lemma Hiding.blind {hide : Hiding} (hpatterns : hide.patterns = []) (t t' : RegisterTree) :
    Screen.Blind (hide.isHidden t) (hide.isHidden t') := by
  intro p q h
  have hfields : List.Forall₂ (fun c d : Place => c.node.Same d.node)
      (p.children.filter fun c => c.node.kind == .field)
      (q.children.filter fun c => c.node.kind == .field) := by
    refine List.rel_filter (fun c d hcd => ?_) h.sameShape.places
    dsimp only
    rw [hcd.sameShape.kind]
  have hall : ∀ l l' : List Place, List.Forall₂ (fun c d : Place => c.node.Same d.node) l l' →
      l.all (hide.hidesNode t) = l'.all (hide.hidesNode t') := by
    intro l l' hl
    induction hl with
    | nil => rfl
    | cons hcd _ ih => rw [List.all_cons, List.all_cons, ih, hidesNode_eq hpatterns t t' hcd]
  rw [Hiding.isHidden, Hiding.isHidden, h.sameShape.kind, hidesNode_eq hpatterns t t' h,
    hall _ _ hfields]

namespace Screen

variable {hidden hidden' : Screen} {h : Hasher} {t t' : RegisterTree} {type : TypeHash}

lemma forall₂_visibleChildren (hblind : hidden.Blind hidden') (hsame : p.node.SameShape q.node) :
    List.Forall₂ (fun c d : Place => c.node.Same d.node) (hidden.visibleChildren p)
      (hidden'.visibleChildren q) := by
  refine List.rel_filter (fun c d hcd => ?_) hsame.places
  dsimp only
  rw [hblind c d hcd]

/-- The children that are shown correspond, and have the same accessor names. -/
lemma forall₂_accessors (hblind : hidden.Blind hidden') (hsame : p.node.SameShape q.node) :
    List.Forall₂ (fun c d : Place × String => c.1.node.Same d.1.node ∧ c.2 = d.2)
      (hidden.accessors p) (hidden'.accessors q) := by
  have hvisible := forall₂_visibleChildren hblind hsame
  have hbases : ((hidden.visibleChildren p).map (·.node)).map Node.accessorBase =
      ((hidden'.visibleChildren q).map (·.node)).map Node.accessorBase := by
    rw [List.map_map, List.map_map, ← List.forall₂_eq_eq_eq]
    exact List.rel_map (fun _ _ hcd => hcd.accessorBase) hvisible
  have hzip : ∀ (l l' : List Place) (names : List String),
      List.Forall₂ (fun c d : Place => c.node.Same d.node) l l' →
      List.Forall₂ (fun c d : Place × String => c.1.node.Same d.1.node ∧ c.2 = d.2)
        (l.zip names) (l'.zip names) := by
    intro l l' names hl
    induction hl generalizing names with
    | nil => exact .nil
    | cons hcd _ ih =>
      cases names with
      | nil => exact .nil
      | cons name rest => exact .cons ⟨hcd, rfl⟩ (ih rest)
  unfold Screen.accessors
  dsimp only
  rw [hsame.kind, Restriction.accessorNames_congr hbases]
  exact hzip _ _ _ hvisible

/-! ## What is hashed -/

/-- A signal has no hash. -/
lemma typeHash_signal (hsignal : p.node.kind = .signal) :
    hidden.typeHash h t p = .error (.unsupportedKind (t.path p) .signal) := by
  rw [typeHash_eq_shapeOf, shapeOf]
  unfold Node.kind Component.kind at hsignal
  unfold Node.detail
  cases hdetail : p.node.component.detail with
  | signal => rfl
  | _ => rw [hdetail] at hsignal; cases hsignal

/-- The hash of a node that is no field and no signal, by what its shown children contribute. -/
lemma typeHash_of_items {items : List HashItem} (hfield : p.node.kind ≠ .field)
    (hsignal : p.node.kind ≠ .signal) (hitems : hidden.items h t p = .ok items) :
    hidden.typeHash h t p =
      .ok (h.nodeHash p.node.component ((hidden.accessors p).map (·.1.node)) items) := by
  rw [typeHash_eq_shapeOf]
  unfold shapeOf
  split
  · next hdetail => exact absurd (congrArg Detail.kind hdetail) hsignal
  · next hdetail => exact absurd (congrArg Detail.kind hdetail) hfield
  · exact bind_of_eq_ok hitems

end Screen

namespace Hasher

variable {h : Hasher}

/-- Nothing that is hashed for every node tells where the node is. -/
lemma commonItems_congr (hreserved : ∀ key ∈ h.properties, key ∉ reservedProperties)
    (hsame : c.SameShape c') : h.commonItems c = h.commonItems c' := by
  have hproperties : (h.properties.filterMap fun key =>
      (Properties.get? c.properties key).map fun v => HashItem.pair key (propertyItem v)) =
      h.properties.filterMap fun key =>
        (Properties.get? c'.properties key).map fun v => HashItem.pair key (propertyItem v) :=
    List.filterMap_congr fun key hkey => by rw [hsame.properties key (hreserved key hkey)]
  unfold commonItems
  rw [hsame.kind, hsame.name, hsame.desc, hproperties]

lemma fieldType_congr (hreserved : ∀ key ∈ h.properties, key ∉ reservedProperties)
    (hsame : c.SameShape c') (f : FieldDetail) : h.fieldType c f = h.fieldType c' f := by
  unfold fieldType fieldInput
  rw [commonItems_congr hreserved hsame, hsame.typeKey]

lemma nodeHash_congr (hreserved : ∀ key ∈ h.properties, key ∉ reservedProperties)
    (hsame : c.SameShape c') {ns ms : List Node}
    (hdetails : ns.map Node.detail = ms.map Node.detail) (items : List HashItem) :
    h.nodeHash c ns items = h.nodeHash c' ms items := by
  rw [Restriction.nodeHash_congr hdetails]
  unfold nodeHash nodeInput ownItems
  rw [commonItems_congr hreserved hsame, hsame.typeKey, hsame.detail, hsame.array]

lemma placedHash_congr (hsame : c.Same c') (type : TypeHash) :
    h.placedHash c type = h.placedHash c' type := by
  unfold placedHash
  rw [hsame.instName, hsame.offset, hsame.array]

lemma not_reserved_of_mem [RunHash] {config : ExportConfig} :
    ∀ key ∈ (Hasher.ofConfig config).properties, key ∉ reservedProperties := by
  intro key hkey
  simpa using (List.mem_filter.1 hkey).2

end Hasher

/-! ## Hashes -/

namespace Screen

variable {hidden hidden' : Screen} {h : Hasher} {t t' : RegisterTree} {type : TypeHash}

/-- Shown children that are the same contribute the same, if they have the same hash. -/
lemma contributionOf_congr {inRegister : Bool} {accessor : String} {item : HashItem}
    (hsame : p.node.Same q.node)
    (htype : ∀ type, hidden.typeHash h t p = .ok type → hidden'.typeHash h t' q = .ok type)
    (hitem : contributionOf h t hidden.queries inRegister p accessor = .ok item) :
    contributionOf h t' hidden'.queries inRegister q accessor = .ok item := by
  unfold contributionOf at hitem ⊢
  change (if _ then _ else (hidden.typeHash h t p >>= fun type => pure _)) = _ at hitem
  cases inRegister with
  | false =>
    obtain ⟨type, hp, hitem⟩ := bind_eq_ok.1 hitem
    refine bind_eq_ok.2 ⟨type, htype type hp, ?_⟩
    unfold Hasher.nodeContribution at hitem ⊢
    rw [← Hasher.placedHash_congr hsame.component]
    exact hitem
  | true =>
    rw [if_pos rfl] at hitem ⊢
    rw [← hsame.sameShape.detail]
    cases hdetail : p.node.detail with
    | field f =>
      rw [hdetail] at hitem
      change (hidden.typeHash h t p >>= fun type => pure _) = _ at hitem
      obtain ⟨type, hp, hitem⟩ := bind_eq_ok.1 hitem
      refine bind_eq_ok.2 ⟨type, htype type hp, ?_⟩
      unfold Hasher.fieldContribution at hitem ⊢
      rw [← hsame.component.instName]
      exact hitem
    | _ => rw [hdetail] at hitem; cases hitem

/-- If a node has a hash, then every node of its shape has that hash. -/
theorem typeHash_of_sameShape (hreserved : ∀ key ∈ h.properties, key ∉ reservedProperties)
    (hblind : hidden.Blind hidden') (hp : p.Distinct) (hq : q.Distinct)
    (hsame : p.node.SameShape q.node) (htype : hidden.typeHash h t p = .ok type) :
    hidden'.typeHash h t' q = .ok type := by
  induction p using Place.induction generalizing q type with
  | step p ih =>
    by_cases hfield : p.node.kind = .field
    · obtain ⟨f, hf⟩ := exists_field hfield
      rw [typeHash_field hf] at htype
      rw [typeHash_field (hsame.detail ▸ hf), ← Hasher.fieldType_congr hreserved hsame.component]
      exact htype
    · obtain ⟨hsignal, items, hitems, rfl⟩ := typeHash_eq_ok hfield htype
      have haccessors := forall₂_accessors hblind hsame
      have hitems' : hidden'.items h t' q = .ok items := by
        unfold Screen.items at hitems ⊢
        rw [contributions_eq_mapM _ _ _ hp.children (accessors_sublist p)] at hitems
        rw [contributions_eq_mapM _ _ _ hq.children (accessors_sublist q), ← hsame.kind]
        refine mapM_eq_ok_of_forall₂ (List.forall₂_iff_zip.2 ?_) hitems
        obtain ⟨hlength, hcorrespond⟩ := List.forall₂_iff_zip.1 haccessors
        refine ⟨hlength, fun {child child'} hmem item hitem => ?_⟩
        obtain ⟨hchild, haccessor⟩ := hcorrespond hmem
        obtain ⟨hc, hd⟩ := List.of_mem_zip hmem
        have hcp := mem_children_of_visible (fst_mem_of_mem_accessors hc)
        have hdq := mem_children_of_visible (fst_mem_of_mem_accessors hd)
        rw [← haccessor]
        refine contributionOf_congr hchild (fun type htype => ?_) hitem
        exact ih child.1 hcp (hp.of_mem (Place.children_mem_subtree p.mem_subtree_self hcp))
          (hq.of_mem (Place.children_mem_subtree q.mem_subtree_self hdq)) hchild.sameShape htype
      have hdetails : ((hidden.accessors p).map (·.1.node)).map Node.detail =
          ((hidden'.accessors q).map (·.1.node)).map Node.detail := by
        rw [List.map_map, List.map_map, ← List.forall₂_eq_eq_eq]
        exact List.rel_map (fun _ _ hcd => hcd.1.sameShape.detail) haccessors
      rw [Hasher.nodeHash_congr hreserved hsame.component hdetails]
      exact typeHash_of_items (hsame.kind ▸ hfield) (hsame.kind ▸ hsignal) hitems'

end Screen

/-! ## Exports -/

/-- The export of a tree by its configuration alone, given what that hides. -/
def Export.configured [RunHash] {σ : Type} (t : RegisterTree) (config : ExportConfig)
    (hide : Hiding) : Export σ :=
  ⟨t, hide, .nothing, .ofConfig config⟩

/-- The memories that an export comes to by asking about any places of its tree, in any order and
whether it is answered or not. -/
inductive Export.Asked {σ : Type} (e : Export σ) : ExportMemory σ → Prop
  | fresh (s : σ) : Asked e (.empty s)
  | isHidden {memory : ExportMemory σ} {p : Place} (h : Asked e memory) (hp : p ∈ e.tree.places) :
    Asked e ((e.isHidden p).run memory).2
  | children {memory : ExportMemory σ} {p : Place} (h : Asked e memory) (hp : p ∈ e.tree.places) :
    Asked e ((e.children p).run memory).2
  | typeHash {memory : ExportMemory σ} {p : Place} (h : Asked e memory) (hp : p ∈ e.tree.places) :
    Asked e ((e.typeHash p).run memory).2

variable {σ : Type} {t t' : RegisterTree} {config : ExportConfig} {hide : Hiding}

/-- The root of a loaded tree may be its export root. -/
lemma RegisterTree.Loaded.atRoot (ht : t.Loaded) : Loaded ⟨t.root, ⟨[], t.root⟩⟩ := by
  obtain ⟨d, hkind, hroot⟩ := ht.exists_description
  exact .whole (ofDescription_eq_ok_iff.2 ⟨hkind, t.root, hroot, rfl⟩)

lemma RegisterTree.Loaded.distinct_root (ht : t.Loaded) : Place.Distinct ⟨[], t.root⟩ :=
  Place.distinct_of_numbered ht.numbered.1

section Configured

variable [RunHash]

/-- The memory of an export by its configuration alone is right about the whole tree. -/
lemma Export.Asked.right {memory : ExportMemory σ} (ht : t.Loaded)
    (h : Asked (.configured t config hide) memory) :
    memory.Right (.ofConfig config) hide t ⟨[], t.root⟩ := by
  have hroot := ht.distinct_root
  induction h with
  | fresh s => exact ExportMemory.right_empty s
  | isHidden _ hp ih => exact (answers_asking (answers_askHidden hroot hp) _ ih).2
  | children _ hp ih => exact (answers_children hroot hp _ ih).2
  | typeHash _ hp ih => exact (answers_typeHash hroot hp _ ih).2

/-- Whatever it was asked before, an export answers with the hash that is computed without a
memory. -/
lemma Export.Asked.typeHash_eq {memory : ExportMemory σ} (ht : t.Loaded) (hp : p ∈ t.places)
    (h : Asked (.configured t config hide) memory) :
    (((Export.configured t config hide).typeHash p).run memory).1 =
      Screen.typeHash (hide.isHidden t) (.ofConfig config) t p :=
  (answers_typeHash ht.distinct_root hp memory (h.right ht)).1

/-- The type hash of a node, as an export answers that was not asked before. -/
def Export.hashOf (t : RegisterTree) (config : ExportConfig) (hide : Hiding) (p : Place) :
    Except ExportFault TypeHash :=
  (((configured t config hide : Export Unit).typeHash p).run (.empty ())).1

lemma Export.hashOf_eq (ht : t.Loaded) (hp : p ∈ t.places) : hashOf t config hide p =
    Screen.typeHash (hide.isHidden t) (.ofConfig config) t p :=
  Asked.typeHash_eq ht hp (.fresh ())

/-- Nodes of one shape have one hash, wherever they are; signals have none, and the fault names
their path. -/
theorem Export.sameShape_typeHash (ht : t.Loaded) (ht' : t'.Loaded)
    (hhide : Hiding.ofConfig config.hide = .ok hide) (hpatterns : config.hide.patterns = [])
    (hp : p ∈ t.places) (hq : q ∈ t'.places) (hsame : p.node.SameShape q.node)
    {memory memory' : ExportMemory σ} (hmemory : Asked (.configured t config hide) memory)
    (hmemory' : Asked (.configured t' config hide) memory') :
    (p.node.kind ≠ .signal → ∃ type,
      (((Export.configured t config hide).typeHash p).run memory).1 = .ok type ∧
      (((Export.configured t' config hide).typeHash q).run memory').1 = .ok type) ∧
    (p.node.kind = .signal →
      (((Export.configured t config hide).typeHash p).run memory).1 =
        .error (.unsupportedKind (t.path p) .signal) ∧
      (((Export.configured t' config hide).typeHash q).run memory').1 =
        .error (.unsupportedKind (t'.path q) .signal)) := by
  rw [hmemory.typeHash_eq ht hp, hmemory'.typeHash_eq ht' hq]
  refine ⟨fun hkind => ?_, fun hkind => ⟨Screen.typeHash_signal hkind,
    Screen.typeHash_signal (hsame.kind ▸ hkind)⟩⟩
  have hnone : hide.patterns = [] := by
    rw [Hiding.ofConfig, hpatterns] at hhide
    exact congrArg Hiding.patterns (Except.ok.inj hhide).symm
  -- from the root on, the node has a hash; it keeps it when another export root is chosen
  obtain ⟨type, htype⟩ := Screen.exists_typeHash (h := .ofConfig config) ht.atRoot
    (hide.hidesSignals ⟨t.root, ⟨[], t.root⟩⟩) hp hkind
  have hdistinct := ht.distinct_root.of_mem hp
  refine ⟨type, Screen.typeHash_of_sameShape Hasher.not_reserved_of_mem
    (Hiding.blind hnone _ _) hdistinct hdistinct (Node.Same.refl _).sameShape htype, ?_⟩
  exact Screen.typeHash_of_sameShape Hasher.not_reserved_of_mem (Hiding.blind hnone _ _) hdistinct
    (ht'.distinct_root.of_mem hq) hsame htype

end Configured

/-! ## Moved nodes -/

namespace Export

section

attribute [local instance] smallRun

/-- An array of registers of one field. -/
def placedRegister (instName : String) (offset : ℕ) (array : ArrayShape) (properties : Properties) :
    Description :=
  .mk { (default : Attributes) with
    kind := .register, instName, offset, array := some array, properties, registerWidth := some 32 }
    [.field "v" 0 7 .readWrite []]

/-- The registers right below the root. -/
def inMap : Description := .group .addressMap "top" 0 [placedRegister "r" 0 ⟨[2], 4⟩ []]

/-- Registers of the same shape in a register file. -/
def inBlock : Description :=
  .group .addressMap "chip" 0 [.group .registerFile "blk" 64
    [placedRegister "q" 16 ⟨[3, 2], 8⟩ [("ral_hide", .flag true), ("ral_inst_name", .text "x")]]]

/-- Registers that are moved, renamed and arranged anew keep their hash. -/
theorem moved_registers_keep_hash : inMap.tree.Loaded ∧ inBlock.tree.Loaded ∧
    (inMap.tree.top.part 0).node.SameShape ((inBlock.tree.top.part 0).part 0).node ∧
    (inMap.tree.top.part 0).node.kind ≠ .signal ∧
    hashOf inMap.tree {} ⟨true, []⟩ (inMap.tree.top.part 0) = .ok (.hash (-553055815174938839)) ∧
    hashOf inBlock.tree {} ⟨true, []⟩ ((inBlock.tree.top.part 0).part 0) =
      .ok (.hash (-553055815174938839)) := by
  have ht : inMap.tree.Loaded := Description.loaded_tree (by decide +kernel)
  have ht' : inBlock.tree.Loaded := Description.loaded_tree (by decide +kernel)
  have hsame : (inMap.tree.top.part 0).node.SameShape
      ((inBlock.tree.top.part 0).part 0).node := by
    refine ⟨⟨rfl, rfl, rfl, rfl, rfl, fun key hkey => ?_, rfl⟩, .cons (.mk (.refl _) .nil) .nil⟩
    simp only [reservedProperties, hideProperty, List.mem_cons, List.not_mem_nil, or_false,
      not_or] at hkey
    change none = List.lookup key [("ral_hide", _), ("ral_inst_name", _)]
    rw [List.lookup_cons, List.lookup_cons, beq_eq_false_iff_ne.2 hkey.1,
      beq_eq_false_iff_ne.2 hkey.2]
    rfl
  have hkind : (inMap.tree.top.part 0).node.kind ≠ .signal := by decide +kernel
  have hhash : hashOf inMap.tree {} ⟨true, []⟩ (inMap.tree.top.part 0) =
      .ok (.hash (-553055815174938839)) := by decide +kernel
  have hp : inMap.tree.top.part 0 ∈ inMap.tree.places :=
    Place.part_mem_subtree (q := ⟨[], inMap.tree.root⟩) ht.numbered.2 0
  have hq : (inBlock.tree.top.part 0).part 0 ∈ inBlock.tree.places := Place.part_mem_subtree
    (q := ⟨[], inBlock.tree.root⟩) (Place.part_mem_subtree ht'.numbered.2 0) 0
  have hhide : Hiding.ofConfig ({} : ExportConfig).hide = .ok ⟨true, []⟩ := rfl
  have hfresh (t : RegisterTree) : Asked (configured t {} ⟨true, []⟩) (.empty ()) := .fresh ()
  obtain ⟨hok, -⟩ := sameShape_typeHash ht ht' hhide rfl hp hq hsame (hfresh _) (hfresh _)
  obtain ⟨type, htype, htype'⟩ := hok hkind
  have heq : hashOf inBlock.tree {} ⟨true, []⟩ ((inBlock.tree.top.part 0).part 0) =
      hashOf inMap.tree {} ⟨true, []⟩ (inMap.tree.top.part 0) := htype'.trans htype.symm
  exact ⟨ht, ht', hsame, hkind, hhash, heq.trans hhash⟩

/-- The same signal in two register files. -/
def twoSignals : Description :=
  .group .addressMap "top" 0 [.group .registerFile "a" 0 [.group .signal "s" 0 []],
    .group .registerFile "b" 64 [.group .signal "s" 0 []]]

/-- Two signals that are the same get different answers. -/
theorem signals_fail_by_path : twoSignals.tree.Loaded ∧
    (twoSignals.tree.top.part 0).part 0 ∈ twoSignals.tree.places ∧
    (twoSignals.tree.top.part 1).part 0 ∈ twoSignals.tree.places ∧
    ((twoSignals.tree.top.part 0).part 0).node.SameShape
      ((twoSignals.tree.top.part 1).part 0).node ∧
    hashOf twoSignals.tree {} ⟨true, []⟩ ((twoSignals.tree.top.part 0).part 0) =
      .error (.unsupportedKind "top.a.s" .signal) ∧
    hashOf twoSignals.tree {} ⟨true, []⟩ ((twoSignals.tree.top.part 1).part 0) =
      .error (.unsupportedKind "top.b.s" .signal) := by
  have ht : twoSignals.tree.Loaded := Description.loaded_tree (by decide +kernel)
  have hplace (i : ℕ) : (twoSignals.tree.top.part i).part 0 ∈ twoSignals.tree.places :=
    Place.part_mem_subtree (q := ⟨[], twoSignals.tree.root⟩)
      (Place.part_mem_subtree ht.numbered.2 i) 0
  refine ⟨ht, hplace 0, hplace 1, ⟨⟨rfl, rfl, rfl, rfl, rfl, fun _ _ => rfl, rfl⟩, .nil⟩, ?_, ?_⟩
  all_goals decide +kernel

end

end Export

end RegisterMap
