import Mathlib
import RegisterMap.Proofs.Export.Height
import RegisterMap.Proofs.Tree.Addresses
import RegisterMap.Source.Resets
import RegisterMap.Source.Sites

/-!
# Walks through types are walks through the tree

The reset values and the sites of a generated package are collected by going through the types of
the plan: what is in a child is looked up at the place where the child's type was first met, which
may lie elsewhere.  Here both are also defined by plain recursion on the shown tree, without any
sharing: every node where it lies, every element of every array.  The two agree, entry by entry
(`unshared_walks`): at every step the place that is looked up is alike to the child, so everything
that a walk reads there is what it would have read in the child, and the heights of the places go
down, so the number of types is fuel enough.
-/

namespace RegisterMap

/-! ## Elements -/

namespace Screen

variable (hidden : Screen)

/-- The value of a register after reset, as far as its shown fields tell. -/
def resetValue (p : Place) : ℕ :=
  ((hidden.visibleChildren p).filterMap fun c => c.node.detail.field?.map Node.resetBits).foldl
    (· ||| ·) 0

/-- The physical words of a register at an address that are not zero after reset. -/
def registerWords (p : Place) (address : ℕ) : List (ℕ × ℕ) :=
  match p.node.detail with
  | .register r =>
    ((splitWords (hidden.resetValue p) r.width r.accessWidth).zipIdx.map fun (word, i) =>
      (address + i * entryBytes r.accessWidth, word)).filter (·.2 != 0)
  | _ => []

mutual

/-- The node at an address, and before anything behind it the elements of all nodes in it. -/
def elementsOf (above : List Node) : Node → (address : ℕ) → List (Place × ℕ)
  | .mk id c cs, address =>
    (⟨above, .mk id c cs⟩, address) ::
      match c.kind with
      | .registerFile | .addressMap => elementsIn (.mk id c cs :: above) cs address
      | _ => []

/-- The elements of some nodes whose parent begins at an address, and of all nodes in them. -/
def elementsIn (above : List Node) : List Node → (base : ℕ) → List (Place × ℕ)
  | [], _ => []
  | n :: rest, base =>
    (if hidden ⟨above, n⟩ then []
      else (List.range n.component.elementCount).flatMap fun i =>
        elementsOf above n (base + n.component.offset + i * n.component.elementStride)) ++
      elementsIn above rest base

end

/-- All elements of a place, whose parent begins at an address, and of all nodes in it. -/
def elements (p : Place) (base : ℕ) : List (Place × ℕ) :=
  (List.range p.node.component.elementCount).flatMap fun i =>
    hidden.elementsOf p.above p.node
      (base + p.node.component.offset + i * p.node.component.elementStride)

/-- The elements of everything that is shown in a place which begins at an address, outside
registers and memories. -/
def elementsBelow (p : Place) (base : ℕ) : List (Place × ℕ) :=
  hidden.elementsIn (p.node :: p.above) p.node.children base

/-- The elements inside one element of a place, at an address. -/
def elementsWithin (p : Place) (address : ℕ) : List (Place × ℕ) :=
  match p.node.kind with
  | .registerFile | .addressMap => hidden.elementsBelow p address
  | _ => []

/-- The words of an element that are not zero after reset. -/
def elementWords (e : Place × ℕ) : List (ℕ × ℕ) := hidden.registerWords e.1 e.2

/-- The words of all registers in what is shown in a place that begins at an address. -/
def resetsBelow (p : Place) (base : ℕ) : List (ℕ × ℕ) :=
  (hidden.elementsBelow p base).flatMap hidden.elementWords

/-- The numbers that the walk for reset values meets at an element have 64 bits: how many elements
its node has, where it begins, and where its words are. -/
structure Fits (e : Place × ℕ) : Prop where
  count : e.1.node.component.elementCount < valueCount addressWidth
  address : e.2 < valueCount addressWidth
  words : ∀ word ∈ hidden.elementWords e, word.1 < valueCount addressWidth

/-- Everything that is shown in a place lies in the address space. -/
structure Addressable (p : Place) : Prop where
  address : p.totalOffset < valueCount addressWidth
  elements : ∀ e ∈ hidden.elementsBelow p p.totalOffset, hidden.Fits e

instance (e : Place × ℕ) : Decidable (hidden.Fits e) :=
  decidable_of_iff (e.1.node.component.elementCount < valueCount addressWidth ∧
      e.2 < valueCount addressWidth ∧
        ∀ word ∈ hidden.elementWords e, word.1 < valueCount addressWidth)
    ⟨fun ⟨hcount, haddress, hwords⟩ => ⟨hcount, haddress, hwords⟩,
      fun hfits => ⟨hfits.count, hfits.address, hfits.words⟩⟩

instance (p : Place) : Decidable (hidden.Addressable p) :=
  decidable_of_iff (p.totalOffset < valueCount addressWidth ∧
      ∀ e ∈ hidden.elementsBelow p p.totalOffset, hidden.Fits e)
    ⟨fun ⟨haddress, helements⟩ => ⟨haddress, helements⟩, fun h => ⟨h.address, h.elements⟩⟩

variable {hidden} {h : Hasher} {t : RegisterTree} {p q c : Place}

lemma elementsOf_eq (p : Place) (address : ℕ) :
    hidden.elementsOf p.above p.node address = (p, address) :: hidden.elementsWithin p address := by
  obtain ⟨above, ⟨id, c, cs⟩⟩ := p
  rw [elementsOf]
  rfl

lemma elementsBelow_eq (p : Place) (base : ℕ) : hidden.elementsBelow p base =
    (hidden.accessors p).flatMap fun child => hidden.elements child.1 base := by
  have hforest : ∀ (above cs : List Node), hidden.elementsIn above cs base =
      ((cs.map (Place.mk above)).filter fun c => !hidden c).flatMap fun c =>
        hidden.elements c base := by
    intro above cs
    induction cs with
    | nil => rfl
    | cons n rest ih =>
      rw [elementsIn, ih, List.map_cons, List.filter_cons]
      cases hidden ⟨above, n⟩ with
      | true => rfl
      | false => rfl
  have hvisible := hforest (p.node :: p.above) p.node.children
  change hidden.elementsBelow p base = (hidden.visibleChildren p).flatMap _ at hvisible
  rw [hvisible, ← map_fst_accessors, List.flatMap_map]

/-- Only registers have words. -/
lemma elementWords_of_not_register (hp : p.node.kind ≠ .register) (address : ℕ) :
    hidden.elementWords (p, address) = [] := by
  unfold elementWords registerWords
  split
  · next r hr => exact absurd (congrArg Detail.kind hr) hp
  · rfl

/-! ## Sites -/

end Screen

/-- What tells one site from another: all but the node that its type is looked up at. -/
structure SiteView where
  steps : List SiteStep
  isMemory : Bool
  /-- The module of the tests, named after the address map around. -/
  module : String
  /-- The number of accessors on the way to the address map around. -/
  depth : ℕ
deriving DecidableEq

def Site.view (s : Site) : SiteView := ⟨s.steps, s.isMemory, s.module, s.depth⟩

namespace Screen

variable (hidden : Screen)

/-- The accessor names of what is shown in a place, in order. -/
def names (p : Place) : List String :=
  accessorNames p.node.kind ((hidden.visibleChildren p).map (·.node))

mutual

/-- The sites in a node that is reached by an accessor after some others. -/
def sitesOf (above : List Node) :
    Node → String → List SiteStep → (module : String) → (depth : ℕ) → List SiteView
  | .mk id c cs, accessor, before, module, depth =>
    let names := hidden.names ⟨above, .mk id c cs⟩
    let steps := before ++ [⟨accessor, c.array.isSome⟩]
    match c.kind with
    | .register => [⟨steps, false, module, depth⟩]
    | .memory => [⟨steps, true, module, depth⟩]
    | .registerFile => sitesIn (.mk id c cs :: above) cs names steps module depth
    | .addressMap => sitesIn (.mk id c cs :: above) cs names steps
        (module ++ "_" ++ withoutUnderscores accessor) steps.length
    | _ => []

/-- The sites in some nodes; the shown ones among them are reached by these accessors. -/
def sitesIn (above : List Node) :
    List Node → List String → List SiteStep → (module : String) → (depth : ℕ) → List SiteView
  | [], _, _, _, _ => []
  | n :: rest, names, before, module, depth =>
    if hidden ⟨above, n⟩ then sitesIn above rest names before module depth
    else
      match names with
      | [] => []
      | name :: names =>
        sitesOf above n name before module depth ++ sitesIn above rest names before module depth

end

/-- The sites in a place that is reached by an accessor after some others. -/
def sites (p : Place) (accessor : String) (before : List SiteStep) (module : String) (depth : ℕ) :
    List SiteView :=
  hidden.sitesOf p.above p.node accessor before module depth

/-- The sites in what is shown in a place that is reached by some accessors. -/
def sitesBelow (p : Place) (before : List SiteStep) (module : String) (depth : ℕ) :
    List SiteView :=
  hidden.sitesIn (p.node :: p.above) p.node.children (hidden.names p) before module depth

variable {hidden} {h : Hasher} {t : RegisterTree} {p q c : Place}

lemma sites_eq (p : Place) (accessor : String) (before : List SiteStep) (module : String)
    (depth : ℕ) : hidden.sites p accessor before module depth =
      let steps := before ++ [⟨accessor, p.node.component.array.isSome⟩]
      match p.node.kind with
      | .register => [⟨steps, false, module, depth⟩]
      | .memory => [⟨steps, true, module, depth⟩]
      | .registerFile => hidden.sitesBelow p steps module depth
      | .addressMap =>
        hidden.sitesBelow p steps (module ++ "_" ++ withoutUnderscores accessor) steps.length
      | _ => [] := by
  obtain ⟨above, ⟨id, c, cs⟩⟩ := p
  rw [sites, sitesOf]
  rfl

lemma sitesBelow_eq (p : Place) (before : List SiteStep) (module : String) (depth : ℕ) :
    hidden.sitesBelow p before module depth =
      (hidden.accessors p).flatMap fun child =>
        hidden.sites child.1 child.2 before module depth := by
  have hforest : ∀ (above cs : List Node) (names : List String),
      hidden.sitesIn above cs names before module depth =
        (((cs.map (Place.mk above)).filter fun c => !hidden c).zip names).flatMap fun child =>
          hidden.sites child.1 child.2 before module depth := by
    intro above cs
    induction cs with
    | nil => intro names; rfl
    | cons n rest ih =>
      intro names
      unfold sitesIn
      rw [List.map_cons, List.filter_cons]
      cases hidden ⟨above, n⟩ with
      | true => exact ih names
      | false =>
        cases names with
        | nil => rfl
        | cons name names =>
          exact congrArg (hidden.sitesOf above n name before module depth ++ ·) (ih names)
  exact hforest _ _ _

/-! ## Places that are alike -/

/-- Fields that agree in their ends and their reset value have the same bits after reset. -/
lemma resetValue_eq (ht : t.Loaded) (hp : p ∈ t.top.subtree) (hq : q ∈ t.top.subtree)
    (hfields : List.Forall₂ (hidden.SameField h t) (hidden.accessors p) (hidden.accessors q)) :
    hidden.resetValue p = hidden.resetValue q := by
  have hbits (r : Place) : (hidden.visibleChildren r).filterMap (fun c =>
      c.node.detail.field?.map Node.resetBits) =
        (hidden.accessors r).filterMap fun child =>
          child.1.node.detail.field?.map Node.resetBits := by
    rw [← map_fst_accessors, List.filterMap_map]
    rfl
  have hsame : List.Forall₂ (fun c d => c.1.node.detail.field?.map Node.resetBits =
      d.1.node.detail.field?.map Node.resetBits) (hidden.accessors p) (hidden.accessors q) := by
    obtain ⟨hlength, hfields⟩ := List.forall₂_iff_zip.1 hfields
    refine List.forall₂_iff_zip.2 ⟨hlength, fun {c d} hcd => ?_⟩
    obtain ⟨hc, hd⟩ := List.of_mem_zip hcd
    obtain ⟨f, g, hf, hg, hmsb, hlsb, hreset⟩ := (hfields hcd).details
    have hgeometry := ht.eq_of_ends hp hq
      (mem_children_of_visible (fst_mem_of_mem_accessors hc))
      (mem_children_of_visible (fst_mem_of_mem_accessors hd)) hf hg hmsb hlsb
    rw [hf, hg]
    simp only [Detail.field?, Option.map_some, Node.resetBits, hgeometry, hreset]
  have hlists : ∀ {l l' : Accessors}, List.Forall₂ (fun c d =>
      c.1.node.detail.field?.map Node.resetBits = d.1.node.detail.field?.map Node.resetBits) l l' →
        l.filterMap (fun child => child.1.node.detail.field?.map Node.resetBits) =
          l'.filterMap fun child => child.1.node.detail.field?.map Node.resetBits := by
    intro l l' hl
    induction hl with
    | nil => rfl
    | cons hcd _ ih => rw [List.filterMap_cons, List.filterMap_cons, hcd, ih]
  rw [resetValue, resetValue, hbits, hbits, hlists hsame]

/-- What the walk for reset values meets at an element. -/
def extent (hidden : Screen) (e : Place × ℕ) : ℕ × ℕ × List (ℕ × ℕ) :=
  (e.1.node.component.elementCount, e.2, hidden.elementWords e)

/-- Registers that are alike have the same words after reset. -/
lemma Alike.elementWords_eq (ht : t.Loaded) (hp : p ∈ t.top.subtree) (hq : q ∈ t.top.subtree)
    (halike : hidden.Alike h t p q) (address : ℕ) :
    hidden.elementWords (p, address) = hidden.elementWords (q, address) := by
  have hkind := halike.kind_eq
  cases halike with
  | register hregister detail fields =>
    simp only [elementWords, registerWords, detail, resetValue_eq ht hp hq fields]
  | field hpkind hqkind =>
    rw [elementWords_of_not_register (by rw [hpkind]; nofun),
      elementWords_of_not_register (by rw [hqkind]; nofun)]
  | group _ hregister =>
    rw [elementWords_of_not_register hregister, elementWords_of_not_register (hkind ▸ hregister)]

/-- In groups that are alike, the walk for reset values meets the same. -/
theorem Alike.extents_eq (ht : t.Loaded) (hp : p ∈ t.top.subtree) (hq : q ∈ t.top.subtree)
    (halike : hidden.Alike h t p q) (hregister : p.node.kind ≠ .register)
    (hfield : p.node.kind ≠ .field) (base : ℕ) :
    (hidden.elementsBelow p base).map hidden.extent =
      (hidden.elementsBelow q base).map hidden.extent := by
  induction halike generalizing base with
  | field hpkind _ => exact absurd hpkind hfield
  | register hpkind _ _ => exact absurd hpkind hregister
  | @group p q _ _ detail members inner ih =>
    obtain ⟨hlength, hmembers⟩ := List.forall₂_iff_zip.1 members
    rw [elementsBelow_eq, elementsBelow_eq, List.map_flatMap, List.map_flatMap]
    refine flatMap_eq_of_forall₂ (List.forall₂_iff_zip.2 ⟨hlength, fun {c d} hcd => ?_⟩)
    obtain ⟨hc, hd⟩ := List.of_mem_zip hcd
    have hctop := Place.children_mem_subtree hp
      (mem_children_of_visible (fst_mem_of_mem_accessors hc))
    have hdtop := Place.children_mem_subtree hq
      (mem_children_of_visible (fst_mem_of_mem_accessors hd))
    have hsame := hmembers hcd
    have halike := inner c d hcd
    have hcount : c.1.node.component.elementCount = d.1.node.component.elementCount := by
      unfold Component.elementCount
      rw [hsame.array]
    have hstride : c.1.node.component.elementStride = d.1.node.component.elementStride := by
      unfold Component.elementStride
      rw [hsame.array]
    have hone : ∀ address, (hidden.elementsOf c.1.above c.1.node address).map hidden.extent =
        (hidden.elementsOf d.1.above d.1.node address).map hidden.extent := by
      intro address
      have hextent : hidden.extent (c.1, address) = hidden.extent (d.1, address) := by
        unfold extent
        rw [halike.elementWords_eq ht hctop hdtop, hcount]
      rw [elementsOf_eq, elementsOf_eq, List.map_cons, List.map_cons, hextent]
      unfold elementsWithin
      rw [← halike.kind_eq]
      cases hkind : c.1.node.kind with
      | registerFile | addressMap =>
        exact congrArg (_ :: ·)
          (ih c d hcd hctop hdtop (by rw [hkind]; nofun) (by rw [hkind]; nofun) address)
      | _ => rfl
    simp only [elements, List.map_flatMap, hcount, hsame.offset, hstride, hone]

/-- An element fits if an element with the same extent does. -/
lemma fits_iff_of_extent_eq {e e' : Place × ℕ} (h : hidden.extent e = hidden.extent e') :
    hidden.Fits e ↔ hidden.Fits e' := by
  obtain ⟨hcount, haddress, hwords⟩ := by simpa only [extent, Prod.mk.injEq] using h
  constructor
  · exact fun hfits => ⟨hcount ▸ hfits.count, haddress ▸ hfits.address, hwords ▸ hfits.words⟩
  · exact fun hfits => ⟨hcount ▸ hfits.count, haddress ▸ hfits.address, hwords ▸ hfits.words⟩

/-- Elements with the same extents fit together. -/
lemma forall_fits_of_extents {l l' : List (Place × ℕ)}
    (h : l.map hidden.extent = l'.map hidden.extent) (hl : ∀ e ∈ l, hidden.Fits e) :
    ∀ e ∈ l', hidden.Fits e := by
  intro e he
  have hmem : hidden.extent e ∈ l.map hidden.extent := h ▸ List.mem_map_of_mem he
  obtain ⟨e', he', hextent⟩ := List.mem_map.1 hmem
  exact (fits_iff_of_extent_eq hextent).1 (hl e' he')

/-- The words of elements with the same extents are the same. -/
lemma flatMap_elementWords_of_extents {l l' : List (Place × ℕ)}
    (h : l.map hidden.extent = l'.map hidden.extent) :
    l.flatMap hidden.elementWords = l'.flatMap hidden.elementWords := by
  have hwords : ∀ l : List (Place × ℕ), l.flatMap hidden.elementWords =
      (l.map hidden.extent).flatMap (·.2.2) := fun l => by
    rw [List.flatMap_map]
    rfl
  rw [hwords, hwords, h]

/-- One element of a place fits at an address with all that is inside it, however many there are. -/
structure FitsAt (hidden : Screen) (p : Place) (address : ℕ) : Prop where
  begins : address < valueCount addressWidth
  words : ∀ word ∈ hidden.elementWords (p, address), word.1 < valueCount addressWidth
  within : ∀ e ∈ hidden.elementsWithin p address, hidden.Fits e

/-- All elements of a place fit when their number and each of them do. -/
lemma forall_fits_elements_iff (hcount : 0 < p.node.component.elementCount) {base : ℕ} :
    (∀ e ∈ hidden.elements p base, hidden.Fits e) ↔
      p.node.component.elementCount < valueCount addressWidth ∧
        ∀ i ∈ List.range p.node.component.elementCount, hidden.FitsAt p
          (base + p.node.component.offset + i * p.node.component.elementStride) := by
  unfold elements
  simp only [List.mem_flatMap, forall_exists_index, and_imp, elementsOf_eq]
  constructor
  · intro h
    have hhead := fun i hi => h _ i hi List.mem_cons_self
    exact ⟨(hhead 0 (List.mem_range.2 hcount)).count, fun i hi => ⟨(hhead i hi).address,
      (hhead i hi).words, fun e he => h e i hi (List.mem_cons_of_mem _ he)⟩⟩
  · rintro ⟨hcount, h⟩ e i hi he
    obtain ⟨hbegins, hwords, hwithin⟩ := h i hi
    rcases List.mem_cons.1 he with rfl | he
    · exact ⟨hcount, hbegins, hwords⟩
    · exact hwithin e he

/-- Groups that are alike have the same sites. -/
theorem Alike.sitesBelow_eq (halike : hidden.Alike h t p q) (hregister : p.node.kind ≠ .register)
    (hfield : p.node.kind ≠ .field) (before : List SiteStep) (module : String) (depth : ℕ) :
    hidden.sitesBelow p before module depth = hidden.sitesBelow q before module depth := by
  induction halike generalizing before module depth with
  | field hpkind _ => exact absurd hpkind hfield
  | register hpkind _ _ => exact absurd hpkind hregister
  | @group p q _ _ detail members inner ih =>
    rw [Screen.sitesBelow_eq, Screen.sitesBelow_eq]
    obtain ⟨hlength, hmembers⟩ := List.forall₂_iff_zip.1 members
    refine flatMap_eq_of_forall₂ (List.forall₂_iff_zip.2 ⟨hlength, fun {c d} hcd => ?_⟩)
    have hsame := hmembers hcd
    have hkind := (inner c d hcd).kind_eq
    rw [Screen.sites_eq, Screen.sites_eq, ← hkind, hsame.accessor, hsame.array]
    cases hcases : c.1.node.kind with
    | registerFile => exact ih c d hcd (by rw [hcases]; nofun) (by rw [hcases]; nofun) _ _ _
    | addressMap => exact ih c d hcd (by rw [hcases]; nofun) (by rw [hcases]; nofun) _ _ _
    | _ => rfl

end Screen

/-! ## Walks through types -/

namespace Rendering

variable {x : Rendering} {hidden : Screen} {h : Hasher} (ht : x.tree.Loaded)
  (hplan : hidden.Plans h x.tree x.plan)
  (hfree : h.CollisionFree (hidden.hashed h x.tree x.tree.top))

/-- The node is an address map or a register file, whose children the walks go through. -/
def IsGroup (p : Place) : Prop := p.node.kind = .registerFile ∨ p.node.kind = .addressMap

/-- The words of a register, without a bound on their addresses. -/
lemma elementWords_eq {p : Place} {d : RegisterDetail} (hp : p.node.detail = .register d)
    (address : ℕ) : hidden.elementWords (p, address) =
      (((splitWords (hidden.resetValue p) d.width d.accessWidth).zipIdx.filter (·.1 != 0)).map
        fun (word, i) => (address + i * entryBytes d.accessWidth, word)) := by
  unfold Screen.elementWords Screen.registerWords
  rw [hp]
  exact List.filter_map ..

/-- At the place of a type, the words of a register are those of its shown fields, if their addresses
fit. -/
lemma registerResets_ends (hplan : hidden.Plans h x.tree x.plan) {r : TypeRecord}
    (hr : r ∈ x.plan.records) (hregister : r.place.node.kind = .register) (address : ℕ) :
    EndsIff Overflows
      (∀ word ∈ hidden.elementWords (r.place, address), word.1 < valueCount addressWidth)
      (hidden.elementWords (r.place, address)) (x.registerResets r.place address) := by
  have hvalue : (x.fieldsOf r.place).foldl (fun acc f => acc ||| Node.resetBits f.2.2) 0 =
      hidden.resetValue r.place := by
    unfold fieldsOf childrenOf Screen.resetValue
    rw [hplan.children r hr, ← Screen.map_fst_accessors, List.filterMap_map, List.foldl_filterMap,
      List.foldl_filterMap]
    refine congrArg (fun step => List.foldl step 0 _) (funext fun acc => funext fun child => ?_)
    obtain ⟨c, accessor⟩ := child
    rw [Function.comp_apply]
    dsimp only
    cases c.node.detail.field? with
    | none => rfl
    | some f => rfl
  cases hdetail : r.place.node.detail with
  | register d =>
    rw [elementWords_eq hdetail]
    unfold registerResets
    rw [hdetail, hvalue]
    have hwords := EndsIff.mapM (P := Overflows)
      (l := (splitWords (hidden.resetValue r.place) d.width d.accessWidth).zipIdx.filter (·.1 != 0))
      fun cell _ => (elementAddress_ends address cell.2 (entryBytes d.accessWidth)).map (·, cell.1)
    refine EndsIff.iff ?_ List.forall_mem_map.symm
    exact hwords
  | _ => cases hregister.symm.trans (congrArg Detail.kind hdetail)

include ht hplan hfree in
/-- The type of something shown in the place of a record, fields apart, is that of a place that is
alike. -/
lemma typeOf_eq {r : TypeRecord} (hr : r ∈ x.plan.records) {c : Place}
    (hc : c ∈ hidden.visibleChildren r.place) (hfield : c.node.kind ≠ .field) :
    ∃ r' ∈ x.plan.records, x.typeOf c = .ok r' ∧ hidden.Alike h x.tree c r'.place ∧
      hidden.height r'.place < hidden.height r.place := by
  have hplace := Screen.visible_mem_places (hplan.records r hr).1 hc
  obtain ⟨type, htype, -⟩ := hplan.covered ht hfree c hplace
  cases type with
  | plain => exact absurd (Screen.field_of_plain htype) hfield
  | hash v =>
    obtain ⟨r', hr', htypeOf, rfl⟩ := hplan.typeOf?_eq ht hplace (hplan.closed r hr c hc) htype
    have halike := hplan.alike ht hfree hplace hr' htype
    refine ⟨r', hr', ?_, halike, ?_⟩
    · unfold typeOf
      rw [htypeOf]
    · have hheight := halike.height_eq ht (Screen.places_subset _ hplace)
        (Screen.places_subset _ (hplan.records r' hr').1)
      rw [← hheight]
      exact Screen.height_lt hc

/-- No fields are in groups. -/
lemma not_field_of_isGroup (ht : x.tree.Loaded) {p c : Place} (hp : p ∈ x.tree.top.subtree)
    (hgroup : IsGroup p) (hc : c ∈ p.children) : c.node.kind ≠ .field := by
  intro hkind
  have hcontain := ht.mayContain hp hc
  rcases hgroup with hgroup | hgroup <;> rw [hgroup, hkind] at hcontain <;> cases hcontain

include ht hplan hfree in
/-- Something shown in a group that is the place of a record is no field, and the place of its type
is alike to it and of a smaller rank. -/
lemma typeOf_child {r : TypeRecord} (hr : r ∈ x.plan.records) (hgroup : IsGroup r.place) {fuel : ℕ}
    (hfuel : x.plan.rank hidden r.place < fuel + 1) {child : Place × String}
    (hchild : child ∈ hidden.accessors r.place) :
    child.1 ∈ x.tree.top.subtree ∧ child.1.node.kind ≠ .field ∧
      ∃ r' ∈ x.plan.records, x.typeOf child.1 = .ok r' ∧
        hidden.Alike h x.tree child.1 r'.place ∧ x.plan.rank hidden r'.place < fuel := by
  have hptop := Screen.places_subset _ (hplan.records r hr).1
  have hc := Screen.fst_mem_of_mem_accessors hchild
  have hfield := not_field_of_isGroup ht hptop hgroup (Screen.mem_children_of_visible hc)
  obtain ⟨r', hr', htype, halike, hheight⟩ := typeOf_eq ht hplan hfree hr hc hfield
  have hrank := Plan.rank_lt hr' hheight
  exact ⟨Place.children_mem_subtree hptop (Screen.mem_children_of_visible hc), hfield, r', hr',
    htype, halike, by omega⟩

/-- The export is given up at an operation on addresses. -/
def Stops (fault : ExportFault) : Prop := ∃ operation, fault = .overflow operation

omit ht hplan hfree in
/-- The number of elements of a node and their distance are there if the number fits. -/
lemma elements_ends (ht : x.tree.Loaded) {p : Place} (hp : p ∈ x.tree.top.subtree) :
    EndsIff Overflows (p.node.component.elementCount < valueCount addressWidth)
      (p.node.component.elementCount, p.node.component.elementStride)
      (elements p.node.component) := by
  unfold elements Component.elementCount Component.elementStride
  cases ha : p.node.component.array with
  | none => exact (EndsIff.of_eq_ok rfl).iff (iff_of_true trivial (by decide))
  | some a => exact (ht.array_wellFormed hp ha).length_ends.map (·, a.stride)

omit ht hplan hfree in
lemma ofOverflow_ends {α : Type} {p : Prop} {a : α} {y : Except Overflow α}
    (hy : EndsIff Overflows p a y) : EndsIff Stops p a (ExportFault.ofOverflow y) :=
  hy.mapError fun operation _ => ⟨operation, rfl⟩

include ht hplan in
/-- The words of an element are found at the place of its type, if they and all that is inside the
element fit. -/
lemma elementResets_ends {r : TypeRecord} (hr : r ∈ x.plan.records) {c : Place}
    (hctop : c ∈ x.tree.top.subtree) (hfield : c.node.kind ≠ .field)
    (halike : hidden.Alike h x.tree c r.place)
    {deeper : Place → ℕ → Except ExportFault (List (ℕ × ℕ))}
    (hdeeper : IsGroup r.place → ∀ base, EndsIff Stops
      (∀ e ∈ hidden.elementsBelow r.place base, hidden.Fits e)
      (hidden.resetsBelow r.place base) (deeper r.place base)) (address : ℕ) :
    EndsIff Stops
      ((∀ word ∈ hidden.elementWords (c, address), word.1 < valueCount addressWidth) ∧
        ∀ e ∈ hidden.elementsWithin c address, hidden.Fits e)
      ((hidden.elementsOf c.above c.node address).flatMap hidden.elementWords)
      (x.elementResets deeper c.node.kind r.place address) := by
  have hplace := Screen.places_subset _ (hplan.records r hr).1
  have hwords := halike.elementWords_eq ht hctop hplace address
  rw [Screen.elementsOf_eq, List.flatMap_cons]
  unfold elementResets Screen.elementsWithin
  cases hkind : c.node.kind with
  | register =>
    have hwalk := ofOverflow_ends
      (registerResets_ends hplan hr (halike.kind_eq.symm.trans hkind) address)
    rw [← hwords] at hwalk
    rw [List.flatMap_nil, List.append_nil]
    exact hwalk.iff (by simp)
  | registerFile | addressMap =>
    have hgroup : IsGroup r.place := by
      unfold IsGroup
      rw [← halike.kind_eq, hkind]
      simp
    have hextents := halike.extents_eq ht hctop hplace (by rw [hkind]; nofun) hfield address
    rw [Screen.elementWords_of_not_register (by rw [hkind]; nofun), List.nil_append,
      Screen.flatMap_elementWords_of_extents hextents]
    refine (hdeeper hgroup address).iff ⟨fun h => ⟨nofun, ?_⟩, fun h => ?_⟩
    · exact Screen.forall_fits_of_extents hextents.symm h
    · exact Screen.forall_fits_of_extents hextents h.2
  | _ =>
    rw [Screen.elementWords_of_not_register (by rw [hkind]; nofun)]
    exact (EndsIff.of_eq_ok rfl).iff (by simp)

include ht hplan in
/-- The words of a child are found at the place of its type, if all that is met on the way fits. -/
lemma childResets_ends {r : TypeRecord} (hr : r ∈ x.plan.records) {c : Place}
    (hctop : c ∈ x.tree.top.subtree) (hfield : c.node.kind ≠ .field) (htype : x.typeOf c = .ok r)
    (halike : hidden.Alike h x.tree c r.place)
    {deeper : Place → ℕ → Except ExportFault (List (ℕ × ℕ))}
    (hdeeper : IsGroup r.place → ∀ base, EndsIff Stops
      (∀ e ∈ hidden.elementsBelow r.place base, hidden.Fits e)
      (hidden.resetsBelow r.place base) (deeper r.place base)) (base : ℕ) :
    EndsIff Stops (∀ e ∈ hidden.elements c base, hidden.Fits e)
      ((hidden.elements c base).flatMap hidden.elementWords) (x.childResets deeper base c) := by
  have helement := elementResets_ends ht hplan hr hctop hfield halike hdeeper
  have hone : ∀ i ∈ List.range c.node.component.elementCount, EndsIff Stops
      (hidden.FitsAt c (base + c.node.component.offset + i * c.node.component.elementStride))
      ((hidden.elementsOf c.above c.node
        (base + c.node.component.offset + i * c.node.component.elementStride)).flatMap
          hidden.elementWords)
      (do
        let first ← ExportFault.ofOverflow (checkedSum base c.node.component.offset)
        let address ← ExportFault.ofOverflow
          (elementAddress first i c.node.component.elementStride)
        x.elementResets deeper c.node.kind r.place address) := by
    intro i _
    refine EndsIff.iff ((ofOverflow_ends (checkedSum_ends _ _)).bind
      ((ofOverflow_ends (elementAddress_ends _ _ _)).bind (helement _))) ?_
    exact ⟨fun ⟨_, hbegins, hwords, hwithin⟩ => ⟨hbegins, hwords, hwithin⟩, fun hfits =>
      ⟨(Nat.le_add_right _ _).trans_lt hfits.begins, hfits.begins, hfits.words, hfits.within⟩⟩
  have hwords : (hidden.elements c base).flatMap hidden.elementWords =
      ((List.range c.node.component.elementCount).map fun i =>
        (hidden.elementsOf c.above c.node
          (base + c.node.component.offset + i * c.node.component.elementStride)).flatMap
            hidden.elementWords).flatten := by
    rw [Screen.elements, List.flatMap_assoc, List.flatMap]
  rw [hwords]
  unfold childResets
  refine EndsIff.iff ((ofOverflow_ends (elements_ends ht hctop)).bind
    ((EndsIff.of_eq_ok htype).bind ((EndsIff.mapM hone).map List.flatten))) ?_
  rw [Screen.forall_fits_elements_iff (ht.elementCount_pos hctop), true_and]

include ht hplan hfree in
/-- With enough fuel, the walk through types finds the words that are in the place of a type, if all
that it meets fits. -/
theorem resetsIn_ends (fuel : ℕ) {r : TypeRecord} (hr : r ∈ x.plan.records)
    (hgroup : IsGroup r.place) (hfuel : x.plan.rank hidden r.place < fuel) (base : ℕ) :
    EndsIff Stops (∀ e ∈ hidden.elementsBelow r.place base, hidden.Fits e)
      (hidden.resetsBelow r.place base) (x.resetsIn fuel r.place base) := by
  induction fuel generalizing r base with
  | zero => exact absurd hfuel (Nat.not_lt_zero _)
  | succ fuel ih =>
    have hchild : ∀ child ∈ hidden.accessors r.place, EndsIff Stops
        (∀ e ∈ hidden.elements child.1 base, hidden.Fits e)
        ((hidden.elements child.1 base).flatMap hidden.elementWords)
        (x.childResets (x.resetsIn fuel) base child.1) := by
      intro child hchild
      obtain ⟨hctop, hfield, r', hr', htype, halike, hless⟩ :=
        typeOf_child ht hplan hfree hr hgroup hfuel hchild
      exact childResets_ends ht hplan hr' hctop hfield htype halike
        (fun hgroup' => ih hr' hgroup' hless) base
    unfold resetsIn childrenOf Screen.resetsBelow
    rw [hplan.children r hr, Screen.elementsBelow_eq, List.flatMap_assoc, List.flatMap]
    refine EndsIff.iff ((EndsIff.mapM hchild).map List.flatten) ?_
    constructor
    · intro h e he
      obtain ⟨child, hchild, he⟩ := List.mem_flatMap.1 he
      exact h child hchild e he
    · exact fun h child hchild e he => h e (List.mem_flatMap.2 ⟨child, hchild, he⟩)

omit ht hplan hfree in
/-- Lists that are computed one after the other and put together. -/
lemma exists_flatten_eq_ok {ι : Type} {f : ι → Except ExportFault (List Site)}
    {g : ι → List SiteView} {l : List ι}
    (hf : ∀ i ∈ l, ∃ sites, f i = .ok sites ∧ sites.map Site.view = g i) :
    ∃ sites, (do let sites ← l.mapM f; pure sites.flatten) = Except.ok (ε := ExportFault) sites ∧
      sites.map Site.view = l.flatMap g := by
  obtain ⟨lists, hlists, hviews⟩ := exists_mapM_eq_ok hf
  refine ⟨lists.flatten, (bind_of_eq_ok hlists).trans rfl, ?_⟩
  clear hlists hf
  induction hviews with
  | nil => rfl
  | cons hview _ ih => rw [List.flatten_cons, List.map_append, List.flatMap_cons, hview, ih]

include ht hplan hfree in
/-- With enough fuel, the walk through types finds the sites that are in the place of a type. -/
theorem sitesIn_eq (fuel : ℕ) {r : TypeRecord} (hr : r ∈ x.plan.records)
    (hgroup : IsGroup r.place) (hfuel : x.plan.rank hidden r.place < fuel)
    (before : List SiteStep) (module : String) (depth : ℕ) :
    ∃ sites, x.sitesIn fuel r.place before module depth = .ok sites ∧
      sites.map Site.view = hidden.sitesBelow r.place before module depth := by
  induction fuel generalizing r before module depth with
  | zero => exact absurd hfuel (Nat.not_lt_zero _)
  | succ fuel ih =>
    unfold sitesIn childrenOf
    rw [hplan.children r hr, Screen.sitesBelow_eq]
    refine exists_flatten_eq_ok fun child hchild => ?_
    obtain ⟨-, hfield, r', hr', htype, halike, hless⟩ :=
      typeOf_child ht hplan hfree hr hgroup hfuel hchild
    obtain ⟨c, accessor⟩ := child
    have hkind : c.node.kind = r'.place.node.kind := halike.kind_eq
    dsimp only
    rw [bind_of_eq_ok htype, Screen.sites_eq]
    have hkindc : c.node.component.kind = c.node.kind := rfl
    rw [hkindc]
    cases hcases : c.node.kind with
    | register => exact ⟨_, rfl, rfl⟩
    | memory => exact ⟨_, rfl, rfl⟩
    | registerFile =>
      have hbelow := halike.sitesBelow_eq (by rw [hcases]; nofun) hfield
      simp only [hbelow]
      exact ih hr' (.inl (hkind.symm.trans hcases)) hless _ _ _
    | addressMap =>
      have hbelow := halike.sitesBelow_eq (by rw [hcases]; nofun) hfield
      simp only [hbelow]
      exact ih hr' (.inr (hkind.symm.trans hcases)) hless _ _ _
    | field => exact absurd hcases hfield
    | signal => exact ⟨_, rfl, rfl⟩

include ht hplan hfree in
/-- The type of the export root is that of a place that is alike. -/
lemma topType_eq : ∃ r ∈ x.plan.records, x.topType = .ok r ∧
    hidden.Alike h x.tree x.tree.top r.place := by
  have htop : x.tree.top ∈ hidden.places x.tree.top := Screen.mem_places_self x.tree.top
  obtain ⟨type, htype, -⟩ := hplan.covered ht hfree _ htop
  cases type with
  | plain =>
    have hfield := Screen.field_of_plain htype
    rw [ht.kind_top] at hfield
    cases hfield
  | hash v =>
    obtain ⟨r, hr, htypeOf, rfl⟩ := hplan.typeOf?_eq ht htop hplan.top htype
    refine ⟨r, hr, ?_, hplan.alike ht hfree htop hr htype⟩
    unfold topType typeOf
    rw [htypeOf]

include ht hplan hfree in
/-- The reset values are those of the shown tree, if everything in it lies in the address space. -/
theorem resetValues_ends : EndsIff Stops (hidden.Addressable x.tree.top)
    (hidden.resetsBelow x.tree.top x.tree.top.totalOffset) x.resetValues := by
  obtain ⟨r, hr, htype, halike⟩ := topType_eq ht hplan hfree
  have hgroup : IsGroup r.place := .inr (halike.kind_eq.symm.trans ht.kind_top)
  have hplace := Screen.places_subset _ (hplan.records r hr).1
  have hextents := halike.extents_eq ht x.tree.top.mem_subtree_self hplace
    (by rw [ht.kind_top]; nofun) (by rw [ht.kind_top]; nofun) x.tree.top.totalOffset
  have hwalk := resetsIn_ends ht hplan hfree (x.plan.records.length + 1) hr hgroup
    (Nat.lt_succ_of_le (x.plan.rank_le _ _)) x.tree.top.totalOffset
  unfold resetValues Screen.resetsBelow
  rw [bind_of_eq_ok htype, Screen.flatMap_elementWords_of_extents hextents]
  refine ((ofOverflow_ends x.tree.top.address_ends).bind hwalk).iff ?_
  exact ⟨fun ⟨haddress, hfits⟩ => ⟨haddress, Screen.forall_fits_of_extents hextents.symm hfits⟩,
    fun h => ⟨h.address, Screen.forall_fits_of_extents hextents h.elements⟩⟩

include ht hplan hfree in
/-- The sites are those of the shown tree. -/
theorem exists_sites : ∃ sites, x.sites = .ok sites ∧ sites.map Site.view =
    hidden.sitesBelow x.tree.top [] (Identifier.snakeCase x.tree.top.node.instName) 0 := by
  obtain ⟨r, hr, htype, halike⟩ := topType_eq ht hplan hfree
  have hgroup : IsGroup r.place := .inr (halike.kind_eq.symm.trans ht.kind_top)
  obtain ⟨sites, hsites, hviews⟩ := sitesIn_eq ht hplan hfree _ hr hgroup
    (Nat.lt_succ_of_le (x.plan.rank_le _ _)) [] x.topModule 0
  have hsame := halike.sitesBelow_eq (by rw [ht.kind_top]; nofun) (by rw [ht.kind_top]; nofun) []
    x.topModule 0
  exact ⟨sites, (bind_of_eq_ok htype).trans hsites, hviews.trans hsame.symm⟩

end Rendering

namespace Export

variable {σ : Type} {e : Export σ} {s : σ} {plan : Plan} {memory : ExportMemory σ}

/-- Whatever is generated from a plan, its reset values and its sites are those of the shown tree,
walked without any sharing.  The reset values are there if everything that is shown lies in the
address space, and otherwise the generation stops at an operation on addresses.  What is shown is
decided by the answers that the export was given, with any answers about nodes that it did not ask
for. -/
theorem unshared_walks (ht : e.tree.Loaded) (h : e.plan.run (.empty s) = (.ok plan, memory))
    {answers : HideAnswers} (hanswers : memory.told.Stays answers)
    (hfree : e.hasher.CollisionFree (answers.screen.hashed e.hasher e.tree e.tree.top))
    (config : ExportConfig) :
    (answers.screen.Addressable e.tree.top → (Rendering.mk e.tree plan config).resetValues =
        .ok (answers.screen.resetsBelow e.tree.top e.tree.top.totalOffset)) ∧
      (¬ answers.screen.Addressable e.tree.top →
        ∃ operation, (Rendering.mk e.tree plan config).resetValues =
          .error (.overflow operation)) ∧
      ∃ sites, (Rendering.mk e.tree plan config).sites = .ok sites ∧
        sites.map Site.view = answers.screen.sitesBelow e.tree.top []
          (Identifier.snakeCase e.tree.top.node.instName) 0 := by
  have hplan := Screen.plans_of_eq_ok ht (plan_eq_ok ht h hanswers)
  have hresets := Rendering.resetValues_ends (x := ⟨e.tree, plan, config⟩) ht hplan hfree
  refine ⟨hresets.ends, fun hnot => ?_,
    Rendering.exists_sites (x := ⟨e.tree, plan, config⟩) ht hplan hfree⟩
  obtain ⟨_, ⟨operation, rfl⟩, hstop⟩ := hresets.fails hnot
  exact ⟨operation, hstop⟩

/-- Of two registers of one type, each has its value after reset at its own address, and each is a
site. -/
theorem registers_reset_apart : ∃ plan memory,
    (quick sharedRegisters).plan.run (.empty ()) = (.ok plan, memory) ∧
      (Rendering.mk sharedRegisters plan {}).resetValues = .ok [(0, 5), (4, 5)] ∧
      ∃ sites, (Rendering.mk sharedRegisters plan {}).sites = .ok sites ∧
        sites.map Site.view = [⟨[⟨"a", false⟩], false, "t", 0⟩, ⟨[⟨"b", false⟩], false, "t", 0⟩] := by
  obtain ⟨plan, memory, hrun, -, htold⟩ := run_sharedRegisters
  have hstays : memory.told.Stays allShown := htold ▸ HideAnswers.Stays.refl _
  obtain ⟨hresets, -, sites, hsites, hviews⟩ := unshared_walks (e := quick sharedRegisters)
    loaded_sharedRegisters hrun hstays collisionFree_sharedRegisters {}
  have hwords : allShown.screen.resetsBelow sharedRegisters.top sharedRegisters.top.totalOffset =
      [(0, 5), (4, 5)] := by
    decide +kernel
  have hfits : allShown.screen.Addressable sharedRegisters.top := by decide +kernel
  have hseen : allShown.screen.sitesBelow sharedRegisters.top []
      (Identifier.snakeCase sharedRegisters.top.node.instName) 0 =
        [⟨[⟨"a", false⟩], false, "t", 0⟩, ⟨[⟨"b", false⟩], false, "t", 0⟩] := by
    decide +kernel
  exact ⟨plan, memory, hrun, (hresets hfits).trans (congrArg Except.ok hwords), sites, hsites,
    hviews.trans hseen⟩

section

attribute [local instance] smallRun

/-- A register, and a buffer of two elements, of which the second one begins behind the last
address. -/
def bufferAtEnd : RegisterTree :=
  (Description.group .addressMap "top" 0
    [.register "r" 0 [.resetField "f" 0 3 5],
      .mk { (default : Attributes) with
        kind := .memory, instName := "m", offset := 0xfffffffffffffff0
        array := some ⟨[2], 16⟩, memoryEntries := some 4, memoryWidth := some 32 } []]).tree

/-- What the export is told of the nodes: all of them are shown. -/
def bufferShown : HideAnswers := [(3, false), (2, false), (1, false), (0, false)]

/-- The walk for reset values goes to the elements of memories too, which have none.  It stops where
the second element would begin, although the only word to be listed is the one of the register. -/
theorem buffer_at_end_stops : bufferAtEnd.Loaded ∧ ∃ plan memory,
    (usual bufferAtEnd).plan.run (.empty ()) = (.ok plan, memory) ∧ memory.told = bufferShown ∧
      (usual bufferAtEnd).hasher.CollisionFree
        (bufferShown.screen.hashed (usual bufferAtEnd).hasher bufferAtEnd bufferAtEnd.top) ∧
      bufferShown.screen.resetsBelow bufferAtEnd.top bufferAtEnd.top.totalOffset = [(0, 5)] ∧
      (Rendering.mk bufferAtEnd plan {}).resetValues = .error (.overflow .sum) := by
  have hrun : ∃ plan ∈ usualPlan bufferAtEnd,
      ((usual bufferAtEnd).plan.run (.empty ())).2.told = bufferShown ∧
        (Rendering.mk bufferAtEnd plan {}).resetValues = .error (.overflow .sum) := by
    decide +kernel
  obtain ⟨plan, hplan, htold, hstops⟩ := hrun
  exact ⟨Description.loaded_tree (by decide +kernel), plan, _, run_of_mem_usualPlan hplan, htold,
    by decide +kernel, by decide +kernel, hstops⟩

end

end Export

end RegisterMap
