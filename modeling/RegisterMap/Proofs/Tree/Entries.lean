import Mathlib
import RegisterMap.Proofs.Tree.Acceptance

/-!
# A tree as the list of its nodes

Listed in the order of their numbers, the nodes of a tree need to know one another by number alone
(`Entry`).  The list of a loaded tree is in order: the number of a node is its index, those of its
children are larger, and every node but the first stands once in the list of children of the one
that it names as its parent (`Entries.Ordered`).  Nothing is lost in it.  The tree is put together
again from the back of the list, where the children of a node are known before the node
(`Entries.rebuild`), and it is the description that was loaded, with the defaults of each kind
written out and without what a kind has no use for (`Description.completed`).
-/

namespace RegisterMap

/-! ## Entries -/

/-- A node in the list of all nodes, where others are known by their numbers. -/
structure Entry where
  id : ℕ
  parent : Option ℕ
  children : List ℕ
  component : Component

/-- What is listed of a node. -/
def Place.entry (p : Place) : Entry :=
  ⟨p.id, p.parent?.map Place.id, p.children.map Place.id, p.node.component⟩

/-- All nodes of a tree, parents before children. -/
def RegisterTree.entries (t : RegisterTree) : List Entry := t.places.map Place.entry

/-- What a node of a loaded tree says about itself. -/
def Component.attributes (c : Component) : Attributes :=
  let common : Attributes :=
    { (default : Attributes) with
      kind := c.kind, instName := c.instName, typeName := c.typeName, scopePath := c.scopePath,
      name := c.name, desc := c.desc, offset := c.offset, array := c.array,
      properties := c.properties }
  match c.detail with
  | .addressMap | .registerFile | .signal => common
  | .register r =>
    { common with registerWidth := some r.width, accessWidth := some r.accessWidth }
  | .field f =>
    { common with
      msb := some f.geometry.msb, lsb := some f.geometry.lsb, access := some f.access,
      hardwareWritable := some f.hardwareWritable, reset := f.reset, encoding := f.encoding }
  | .memory m =>
    { common with
      memoryEntries := some m.entries, memoryWidth := some m.width,
      accessWidth := some m.accessWidth, access := some m.access }

namespace Entries

/-- The list is in order, and parents and children in it agree. -/
structure Ordered (entries : List Entry) : Prop where
  /-- The number of a node is its index. -/
  id_eq : entries.map Entry.id = List.range entries.length
  /-- The first node has no parent. -/
  parent_root : ∀ e ∈ entries, e.id = 0 → e.parent = none
  /-- Every other node has one. -/
  exists_parent : ∀ e ∈ entries, e.id ≠ 0 → ∃ p ∈ entries, e.parent = some p.id
  /-- A node is a child of its parent and of no other node. -/
  mem_children_iff : ∀ p ∈ entries, ∀ e ∈ entries, e.id ∈ p.children ↔ e.parent = some p.id
  /-- Children are listed once, and they are listed nodes that follow their parent. -/
  children_nodup : ∀ p ∈ entries, p.children.Nodup
  id_lt_child : ∀ p ∈ entries, ∀ i ∈ p.children, p.id < i ∧ i < entries.length

/-- The descriptions of the nodes in a list; `next` is the number of the second one.  Children are
looked up among the nodes that follow. -/
def assemble (next : ℕ) : List Entry → List Description
  | [] => []
  | e :: rest =>
    let later := assemble (next + 1) rest
    .mk e.component.attributes (e.children.filterMap fun i => later[i - next]?) :: later

/-- The description of the first node in a list. -/
def rebuild (entries : List Entry) : Option Description := (assemble 1 entries).head?

end Entries

/-! ## What is kept of a description -/

/-- What is kept of the attributes of a node: those that all kinds have, and those of its own kind,
where the ones that may be left out have their defaults. -/
def Attributes.completed (a : Attributes) : Attributes :=
  let common : Attributes :=
    { a with
      lsb := none, msb := none, access := none, hardwareWritable := none, reset := none,
      encoding := none, registerWidth := none, accessWidth := none, memoryEntries := none,
      memoryWidth := none }
  match a.kind with
  | .addressMap | .registerFile | .signal => common
  | .register =>
    { common with
      registerWidth := a.registerWidth
      accessWidth := a.registerWidth.map a.accessWidthIn }
  | .field =>
    { common with
      msb := a.msb, lsb := a.lsb, access := some (a.access.getD .readWrite)
      hardwareWritable := some (a.hardwareWritable.getD true)
      reset := a.reset, encoding := a.encoding }
  | .memory =>
    { common with
      memoryEntries := a.memoryEntries, memoryWidth := a.memoryWidth
      accessWidth := a.memoryWidth.map a.accessWidthIn
      access := some (a.access.getD .readWrite) }

namespace Description

mutual

/-- The description with the same nodes in the same order, each with what is kept of it. -/
def completed : Description → Description
  | .mk a ds => .mk a.completed (completeds ds)

/-- The same of several descriptions. -/
def completeds : List Description → List Description
  | [] => []
  | d :: rest => completed d :: completeds rest

end

mutual

/-- What the nodes say about themselves, parents before children. -/
def preorder : Description → List Attributes
  | .mk a ds => a :: preorders ds

/-- The same in several descriptions. -/
def preorders : List Description → List Attributes
  | [] => []
  | d :: rest => preorder d ++ preorders rest

end

end Description

/-! ## The order of entries -/

namespace Place

variable {p q r : Place}

/-- Every place in a tree but its root is a child of a place in it. -/
lemma exists_parent_of_mem_subtree (hp : p ∈ q.subtree) :
    p = q ∨ ∃ r ∈ q.subtree, p ∈ r.children := by
  induction p, hp using subtree_induction with
  | top => exact .inl rfl
  | child r hr _ c hc => exact .inr ⟨r, hr, hc⟩

lemma parent?_of_mem_children (hp : p ∈ q.children) : p.parent? = some q := by
  obtain ⟨n, -, rfl⟩ := List.mem_map.1 hp
  rfl

section Numbered

variable {root : Node}

/-- A place of a numbered tree lists those places whose parent it is. -/
lemma mem_children_entry_iff (hroot : root.Numbered) {c : Place} (hp : p ∈ subtree ⟨[], root⟩)
    (hc : c ∈ subtree ⟨[], root⟩) : c.id ∈ p.entry.children ↔ c.entry.parent = some p.id := by
  constructor
  · intro hchild
    obtain ⟨d, hd, hid⟩ := List.mem_map.1 hchild
    obtain rfl := eq_of_id_eq hroot (children_mem_subtree hp hd) hc hid
    rw [entry, parent?_of_mem_children hd]
    rfl
  · intro hparent
    rcases exists_parent_of_mem_subtree hc with rfl | ⟨q, hq, hcq⟩
    · cases hparent
    · rw [entry, parent?_of_mem_children hcq] at hparent
      obtain rfl := eq_of_id_eq hroot hq hp (Option.some.inj hparent)
      exact List.mem_map_of_mem hcq

/-- The children of a place of a numbered tree have numbers after its own one. -/
lemma id_lt_of_mem_children (hroot : root.Numbered) {c : Place} (hp : p ∈ subtree ⟨[], root⟩)
    (hc : c ∈ p.children) : p.id < c.id :=
  ((inside_iff hroot (children_mem_subtree hp hc) hp).1 ⟨c, hc, c.mem_subtree_self⟩).1

/-- The list of the nodes of a numbered tree is in order. -/
theorem ordered_entries (hroot : root.Numbered) (hid : root.id = 0) :
    Entries.Ordered ((subtree ⟨[], root⟩).map entry) := by
  have hids : (subtree ⟨[], root⟩).map Place.id = List.range root.size := by
    rw [ids_subtree hroot, List.range_eq_range']
    exact congrArg (fun k => List.range' k root.size) hid
  have hlength : ((subtree ⟨[], root⟩).map entry).length = root.size := by
    rw [List.length_map, ← List.length_map (f := Place.id), hids, List.length_range]
  have hmem : ∀ e ∈ (subtree ⟨[], root⟩).map entry, ∃ p ∈ subtree ⟨[], root⟩, p.entry = e :=
    fun e he => List.mem_map.1 he
  refine
    { id_eq := ?_
      parent_root := ?_
      exists_parent := ?_
      mem_children_iff := ?_
      children_nodup := ?_
      id_lt_child := ?_ }
  · rw [hlength, ← hids, List.map_map]
    rfl
  · intro e he hzero
    obtain ⟨p, hp, rfl⟩ := hmem e he
    rw [eq_of_id_eq hroot hp (mem_subtree_self _) (hzero.trans hid.symm)]
    rfl
  · intro e he hne
    obtain ⟨p, hp, rfl⟩ := hmem e he
    rcases exists_parent_of_mem_subtree hp with rfl | ⟨q, hq, hpq⟩
    · exact absurd hid hne
    · refine ⟨q.entry, List.mem_map_of_mem hq, ?_⟩
      rw [entry, parent?_of_mem_children hpq]
      rfl
  · intro e he e' he'
    obtain ⟨p, hp, rfl⟩ := hmem e he
    obtain ⟨c, hc, rfl⟩ := hmem e' he'
    exact mem_children_entry_iff hroot hp hc
  · intro e he
    obtain ⟨p, hp, rfl⟩ := hmem e he
    have hdistinct := ((distinct_of_numbered hroot).of_mem hp).children
    rw [entry, children, List.map_map]
    exact hdistinct
  · intro e he i hi
    obtain ⟨p, hp, rfl⟩ := hmem e he
    obtain ⟨c, hc, rfl⟩ := List.mem_map.1 hi
    have hrange : c.id ∈ List.range root.size :=
      hids ▸ List.mem_map_of_mem (children_mem_subtree hp hc)
    rw [hlength]
    exact ⟨id_lt_of_mem_children hroot hp hc, List.mem_range.1 hrange⟩

end Numbered

end Place

/-! ## Putting a tree together again -/

namespace Node

mutual

/-- The description of a node and everything in it. -/
def description : Node → Description
  | .mk _ c ns => .mk c.attributes (descriptions ns)

/-- The descriptions of several nodes. -/
def descriptions : List Node → List Description
  | [] => []
  | n :: rest => description n :: descriptions rest

end

lemma descriptions_eq_map (ns : List Node) : descriptions ns = ns.map description := by
  induction ns with
  | nil => rfl
  | cons n rest ih => rw [descriptions, ih, List.map_cons]

lemma description_eq (n : Node) :
    n.description = .mk n.component.attributes (n.children.map description) := by
  cases n
  rw [description, descriptions_eq_map]
  rfl

end Node

namespace Place

/-- In a list of consecutive numbers a place is found at its distance from the first one. -/
lemma getElem?_of_ids {α : Type} {f : Place → α} {places : List Place} {rest : List α}
    {first count : ℕ} (hids : places.map id = List.range' first count) {p : Place}
    (hp : p ∈ places) : (places.map f ++ rest)[p.id - first]? = some (f p) := by
  obtain ⟨i, hi, rfl⟩ := List.getElem_of_mem hp
  have hlength : count = places.length := by
    rw [← List.length_map (f := id), hids, List.length_range']
  have hid : (places[i]).id = first + i := by
    have hget : (places.map id)[i]? = some (first + i) := by
      rw [hids, List.getElem?_range' (hlength ▸ hi), one_mul]
    rw [List.getElem?_map, List.getElem?_eq_getElem hi] at hget
    exact Option.some.inj hget
  rw [hid, Nat.add_sub_cancel_left, List.getElem?_append_left (by rwa [List.length_map]),
    List.getElem?_map, List.getElem?_eq_getElem hi]
  rfl

/-- The entries of a numbered tree give the descriptions of its places, whatever follows them. -/
theorem assemble_subtree {p : Place} (hp : p.node.Numbered) (rest : List Entry) :
    Entries.assemble (p.id + 1) (p.subtree.map entry ++ rest) =
      p.subtree.map (fun q => q.node.description) ++
        Entries.assemble (p.id + p.node.size + 1) rest := by
  induction p using Place.induction generalizing rest with
  | step p ih =>
    have hforest : ∀ (cs : List Place) (k : ℕ) (rest : List Entry), cs ⊆ p.children →
        Node.NumberedFrom k (cs.map Place.node) →
        Entries.assemble (k + 1) ((cs.flatMap subtree).map entry ++ rest) =
          (cs.flatMap subtree).map (fun q => q.node.description) ++
            Entries.assemble (k + Node.sizes (cs.map Place.node) + 1) rest := by
      intro cs
      induction cs with
      | nil => intro k rest _ _; rfl
      | cons c cs ihcs =>
        intro k rest hsub hfrom
        rw [List.map_cons, Node.NumberedFrom] at hfrom
        obtain ⟨rfl, hc, hcs⟩ := hfrom
        have hhead := ih c (hsub List.mem_cons_self) hc
        have htail := ihcs (c.node.id + c.node.size) rest
          (fun d hd => hsub (List.mem_cons_of_mem _ hd)) hcs
        rw [List.flatMap_cons, List.map_append, List.map_append, List.append_assoc, List.map_cons,
          Node.sizes, ← Nat.add_assoc, List.append_assoc, ← htail]
        exact hhead _
    have hchildren : p.children.map Place.node = p.node.children := by
      rw [children, List.map_map]
      exact List.map_id _
    have hnumbered := (Node.numbered_iff _).1 hp
    have hlater := hforest p.children (p.id + 1) rest (List.Subset.refl _)
      (by rw [hchildren]; exact hnumbered)
    rw [subtree_eq, List.map_cons, List.map_cons, List.cons_append, List.cons_append,
      Entries.assemble, hlater, hchildren, Node.size_eq]
    congr 1
    · rw [Node.description_eq]
      congr 1
      rw [entry, List.filterMap_map, ← hchildren, List.map_map]
      refine (List.filterMap_congr fun c hc => ?_).trans (congrFun List.filterMap_eq_map _)
      exact getElem?_of_ids (ids_children hp) (List.mem_flatMap.2 ⟨c, hc, c.mem_subtree_self⟩)
    · congr 2
      omega

/-- The list of the nodes of a numbered tree gives its description. -/
theorem rebuild_subtree {root : Node} (hroot : root.Numbered) (hid : root.id = 0) :
    Entries.rebuild ((subtree ⟨[], root⟩).map entry) = some root.description := by
  have hassemble := assemble_subtree (p := ⟨[], root⟩) hroot []
  rw [List.append_nil, Place.id, hid, Entries.assemble, List.append_nil] at hassemble
  rw [Entries.rebuild]
  refine (congrArg List.head? hassemble).trans ?_
  rw [subtree_eq, List.map_cons, List.head?_cons]

end Place

/-! ## Nothing is lost -/

namespace Attributes

variable {path : String} {register : Option RegisterDetail} {a : Attributes} {c : Component}

/-- What is kept of a node is what its description says, with the defaults of its kind. -/
theorem attributes_of_toComponent (h : a.toComponent path register = .ok c) :
    c.attributes = a.completed := by
  obtain ⟨-, detail, hdetail, rfl⟩ := toComponent_eq_ok_iff.1 h
  unfold toDetail at hdetail
  unfold completed
  cases hkind : a.kind with
  | addressMap | registerFile | signal =>
    rw [hkind] at hdetail
    cases hdetail
    simp only [Component.attributes, withDetail, Component.kind, Detail.kind, ← hkind]
    rfl
  | register =>
    rw [hkind] at hdetail
    obtain ⟨r, hr, rfl⟩ := map_eq_ok.1 hdetail
    obtain ⟨hfits, haccess⟩ := toRegister_eq_ok_iff_registerFits.1 hr
    simp only [Component.attributes, withDetail, Component.kind, Detail.kind, hfits.width_eq,
      haccess, ← hkind]
    rfl
  | field =>
    rw [hkind] at hdetail
    obtain ⟨f, hf, rfl⟩ := map_eq_ok.1 hdetail
    obtain ⟨msb, lsb, g, hmsb, hlsb, hg, -, -, -, rfl⟩ := toField_eq_ok_iff.1 hf
    obtain ⟨rfl, rfl⟩ := Geometry.ends_of_ofMsbLsb hg
    simp only [Component.attributes, withDetail, Component.kind, Detail.kind, hmsb, hlsb, ← hkind]
    rfl
  | memory =>
    rw [hkind] at hdetail
    obtain ⟨m, hm, rfl⟩ := map_eq_ok.1 hdetail
    obtain ⟨hfits, haccess, hsw⟩ := toMemory_eq_ok_iff_memoryFits.1 hm
    simp only [Component.attributes, withDetail, Component.kind, Detail.kind, hfits.width_eq,
      hfits.entries_eq, haccess, hsw, ← hkind]
    rfl

end Attributes

namespace Node

mutual

/-- A loaded node describes what it was made of. -/
theorem description_of_ofDescription {above : String} {register : Option RegisterDetail} {id : ℕ} :
    ∀ {d : Description} {n : Node}, ofDescription above register id d = .ok n →
      n.description = d.completed
  | .mk a ds, n, h => by
    obtain ⟨component, nodes, hcomponent, hnodes, -, rfl⟩ := ofDescription_eq_ok h
    rw [description, Description.completed, Attributes.attributes_of_toComponent hcomponent,
      descriptions_of_ofDescriptions hnodes]

theorem descriptions_of_ofDescriptions {path : String} {parent : Detail} {id : ℕ} :
    ∀ {ds : List Description} {ns : List Node}, ofDescriptions path parent id ds = .ok ns →
      descriptions ns = Description.completeds ds
  | [], ns, h => by
    cases h
    rfl
  | d :: rest, ns, h => by
    obtain ⟨-, n, nodes, hn, hnodes, rfl⟩ := ofDescriptions_cons_eq_ok h
    rw [descriptions, Description.completeds, description_of_ofDescription hn,
      descriptions_of_ofDescriptions hnodes]

end

end Node

namespace Place

lemma attributes_subtree (p : Place) :
    p.subtree.map (fun q => q.node.component.attributes) = p.node.description.preorder := by
  induction p using Place.induction with
  | step p ih =>
    have hforest : ∀ cs : List Place, cs ⊆ p.children →
        (cs.flatMap subtree).map (fun q => q.node.component.attributes) =
          Description.preorders (cs.map fun c => c.node.description) := by
      intro cs
      induction cs with
      | nil => intro _; rfl
      | cons c cs ihcs =>
        intro hsub
        rw [List.flatMap_cons, List.map_append, ih c (hsub List.mem_cons_self),
          ihcs fun d hd => hsub (List.mem_cons_of_mem _ hd), List.map_cons, Description.preorders]
    rw [subtree_eq, List.map_cons, hforest p.children (List.Subset.refl _), Node.description_eq,
      Description.preorder, children, List.map_map]
    rfl

end Place

namespace Description

/-- Well-formed descriptions of address maps, and no others, are loaded, and nothing is lost: the
nodes are listed in order, parents before children, and the tree that is put together from the list
is the one described. -/
theorem loads_iff_wellFormed {d : Description} (hd : d.HoldsWords) :
    ((∃ t, RegisterTree.ofDescription d = .ok t) ↔
        d.attributes.kind = .addressMap ∧ d.WellFormed) ∧
      ∀ t, RegisterTree.ofDescription d = .ok t → Entries.Ordered t.entries ∧
        t.entries.map (fun e => e.component.attributes) = d.completed.preorder ∧
        Entries.rebuild t.entries = some d.completed := by
  constructor
  · simp only [RegisterTree.ofDescription_eq_ok_iff]
    have hroot := Node.exists_ofDescription_iff "" 0 (fun r (hr : none = some r) => nomatch hr) hd
    constructor
    · rintro ⟨t, hkind, root, hload, -⟩
      exact ⟨hkind, (hroot.1 ⟨root, hload⟩).1⟩
    · rintro ⟨hkind, hwell⟩
      have hfits : d.FitsIn none := fun hfield => by
        rw [hkind] at hfield
        cases hfield
      obtain ⟨root, hload⟩ := hroot.2 ⟨hwell, hfits⟩
      exact ⟨_, hkind, root, hload, rfl⟩
  · intro t ht
    obtain ⟨-, root, hload, rfl⟩ := RegisterTree.ofDescription_eq_ok_iff.1 ht
    obtain ⟨hid, hnumbered⟩ := Node.numbered_ofDescription hload
    have hdescription := Node.description_of_ofDescription hload
    refine ⟨Place.ordered_entries hnumbered hid, ?_, ?_⟩
    · rw [RegisterTree.entries, List.map_map, ← hdescription]
      exact Place.attributes_subtree ⟨[], root⟩
    · rw [← hdescription]
      exact Place.rebuild_subtree hnumbered hid

/-- An array of register files with a register of two fields, the second one with its ends in
opposite order and a value for each of its states, and a memory beside it. -/
def mixedSample : Description :=
  group .addressMap "top" 0 [
    .mk { (default : Attributes) with
      kind := .registerFile, instName := "banks", array := some ⟨[2, 3], 16⟩ } [
      register "r" 4 [
        resetField "low" 0 3 9,
        .mk { (default : Attributes) with
          kind := .field, instName := "mode", msb := some 4, lsb := some 5, reset := some 2
          encoding := some ⟨.ofPairs "Mode" [(0, "OFF"), (3, "ON")], none⟩ } []]],
    .mk { (default : Attributes) with
      kind := .memory, instName := "ram", offset := 256, memoryEntries := some 8
      memoryWidth := some 96, accessWidth := some 32 } []]

/-- A node without values holds words when its children do. -/
lemma holdsWords_of_eq_none {a : Attributes} {ds : List Description} (hreset : a.reset = none)
    (hencoding : a.encoding = none) (hds : ∀ d ∈ ds, d.HoldsWords) : HoldsWords (.mk a ds) :=
  .mk ⟨by rw [hreset]; nofun, by rw [hencoding]; nofun⟩ hds

lemma holdsWords_mixedSample : mixedSample.HoldsWords := by
  have hlow : (resetField "low" 0 3 9).HoldsWords := by
    refine .mk ⟨fun value hvalue => ?_, fun e he => ?_⟩ (List.forall_mem_nil _)
    · cases hvalue
      decide
    · cases he
  refine holdsWords_of_eq_none rfl rfl (List.forall_mem_cons.2 ⟨?_, List.forall_mem_singleton.2 ?_⟩)
  · refine holdsWords_of_eq_none rfl rfl (List.forall_mem_singleton.2 ?_)
    refine holdsWords_of_eq_none rfl rfl (List.forall_mem_cons.2 ⟨hlow, ?_⟩)
    refine List.forall_mem_singleton.2 (.mk ⟨fun value hvalue => ?_, fun e he => ?_⟩
      (List.forall_mem_nil _))
    · cases hvalue
      decide
    · cases he
      decide
  · exact holdsWords_of_eq_none rfl rfl (List.forall_mem_nil _)

theorem mixedSample_loads : mixedSample.HoldsWords ∧ mixedSample.attributes.kind = .addressMap ∧
    mixedSample.WellFormed ∧ ∃ t, RegisterTree.ofDescription mixedSample = .ok t ∧
      Entries.Ordered t.entries ∧ Entries.rebuild t.entries = some mixedSample.completed := by
  have hload : (RegisterTree.ofDescription mixedSample).toOption.isSome = true := by decide +kernel
  obtain ⟨hiff, hkept⟩ := loads_iff_wellFormed holdsWords_mixedSample
  cases ht : RegisterTree.ofDescription mixedSample with
  | error e =>
    rw [ht] at hload
    cases hload
  | ok t =>
    obtain ⟨hkind, hwell⟩ := hiff.1 ⟨t, ht⟩
    obtain ⟨hordered, -, hrebuild⟩ := hkept t ht
    exact ⟨holdsWords_mixedSample, hkind, hwell, t, rfl, hordered, hrebuild⟩

end Description

end RegisterMap
