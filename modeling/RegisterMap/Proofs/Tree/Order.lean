import Mathlib
import RegisterMap.Proofs.Results
import RegisterMap.Tree.Place

/-!
# The order of places

The loader numbers the nodes of a tree in the order in which it meets them, parents before children.
The nodes in a node therefore have the numbers that follow its own one (`ids_subtree`), which makes
numbers names for places (`eq_of_id_eq`) and turns the question whether one place lies inside
another into a comparison of numbers (`inside_iff`).
-/

namespace RegisterMap

/-! ## Subtrees -/

namespace Place

/-- The place and all places in it, parents before children. -/
def subtree (p : Place) : List Place := preorder p.above p.node

/-- The place lies in a child of another one, or is a child of it. -/
def Inside (p q : Place) : Prop := ∃ c ∈ q.children, p ∈ c.subtree

variable {p q : Place}

lemma preorders_eq_flatMap (above : List Node) (cs : List Node) :
    preorders above cs = cs.flatMap (preorder above) := by
  induction cs with
  | nil => rfl
  | cons n rest ih => rw [preorders, ih, List.flatMap_cons]

lemma subtree_eq (p : Place) : p.subtree = p :: p.children.flatMap subtree := by
  obtain ⟨above, ⟨id, c, cs⟩⟩ := p
  rw [subtree, preorder, preorders_eq_flatMap, children, List.flatMap_map]
  rfl

lemma mem_subtree_self (p : Place) : p ∈ p.subtree := by
  rw [subtree_eq]
  exact List.mem_cons_self

lemma mem_subtree_iff : p ∈ q.subtree ↔ p = q ∨ p.Inside q := by
  rw [subtree_eq, List.mem_cons, List.mem_flatMap]
  rfl

/-- What holds of a place whenever it holds of its children holds of all places. -/
theorem induction {P : Place → Prop} (step : ∀ p : Place, (∀ c ∈ p.children, P c) → P p)
    (p : Place) : P p := by
  refine step p fun c hc => ?_
  have hless : sizeOf c.node < sizeOf p.node := by
    obtain ⟨n, hn, rfl⟩ := List.mem_map.1 hc
    obtain ⟨above, ⟨id, component, cs⟩⟩ := p
    have hmem : sizeOf n < sizeOf cs := List.sizeOf_lt_of_mem hn
    simp only [Node.mk.sizeOf_spec]
    omega
  exact induction step c
termination_by sizeOf p.node

/-- Subtrees are closed under taking children. -/
lemma children_mem_subtree {c : Place} (hp : p ∈ q.subtree) (hc : c ∈ p.children) :
    c ∈ q.subtree := by
  induction q using Place.induction with
  | step q ih =>
    rcases mem_subtree_iff.1 hp with rfl | ⟨d, hd, hpd⟩
    · exact mem_subtree_iff.2 (.inr ⟨c, hc, c.mem_subtree_self⟩)
    · exact mem_subtree_iff.2 (.inr ⟨d, hd, ih d hd hpd⟩)

lemma subtree_subset (hp : p ∈ q.subtree) : p.subtree ⊆ q.subtree := by
  induction p using Place.induction with
  | step p ih =>
    intro r hr
    rcases mem_subtree_iff.1 hr with rfl | ⟨c, hc, hrc⟩
    · exact hp
    · exact ih c hc (children_mem_subtree hp hc) hrc

/-- What holds of a place, and of the children of the places in it that it holds of, holds of all
places in it. -/
theorem subtree_induction {q : Place} {motive : ∀ p, p ∈ q.subtree → Prop}
    (top : motive q q.mem_subtree_self)
    (child : ∀ p hp, motive p hp → ∀ c (hc : c ∈ p.children), motive c (children_mem_subtree hp hc))
    (p : Place) (hp : p ∈ q.subtree) : motive p hp := by
  have hbelow : ∀ r (hr : r ∈ q.subtree), motive r hr → ∀ p (hp : p ∈ r.subtree),
      motive p (subtree_subset hr hp) := by
    intro r
    induction r using Place.induction with
    | step r ih =>
      intro hr hmotive p hp
      rcases mem_subtree_iff.1 hp with rfl | ⟨c, hc, hpc⟩
      · exact hmotive
      · exact ih c hc (children_mem_subtree hr hc) (child r hr hmotive c hc) p hpc
  exact hbelow q q.mem_subtree_self top p hp

end Place

/-! ## Numbers -/

namespace Node

mutual

/-- The numbers in a tree follow the one of its root, in order. -/
def Numbered : Node → Prop
  | mk id _ cs => NumberedFrom (id + 1) cs

/-- The numbers in several trees follow one another, beginning with a given one. -/
def NumberedFrom : ℕ → List Node → Prop
  | _, [] => True
  | k, n :: rest => n.id = k ∧ Numbered n ∧ NumberedFrom (k + n.size) rest

end

lemma numbered_iff (n : Node) : n.Numbered ↔ NumberedFrom (n.id + 1) n.children := by
  cases n
  rw [Numbered, id, children]

lemma size_eq (n : Node) : n.size = sizes n.children + 1 := by
  cases n
  rw [size, children]

lemma NumberedFrom.numbered {k : ℕ} {cs : List Node} (h : NumberedFrom k cs) {n : Node}
    (hn : n ∈ cs) : n.Numbered := by
  induction cs generalizing k with
  | nil => simp at hn
  | cons m rest ih =>
    rw [NumberedFrom] at h
    rcases List.mem_cons.1 hn with rfl | hrest
    · exact h.2.1
    · exact ih h.2.2 hrest

lemma NumberedFrom.nodup {k : ℕ} {cs : List Node} (h : NumberedFrom k cs) :
    (cs.map id).Nodup ∧ ∀ n ∈ cs, k ≤ n.id := by
  induction cs generalizing k with
  | nil => simp
  | cons m rest ih =>
    rw [NumberedFrom] at h
    obtain ⟨hnodup, hle⟩ := ih h.2.2
    have hsize := size_eq m
    constructor
    · rw [List.map_cons, List.nodup_cons]
      refine ⟨fun hmem => ?_, hnodup⟩
      obtain ⟨n, hn, heq⟩ := List.mem_map.1 hmem
      have := hle n hn
      omega
    · intro n hn
      rcases List.mem_cons.1 hn with rfl | hn
      · exact h.1.ge
      · have := hle n hn
        omega

end Node

namespace Place

variable {p q : Place}

/-- What a node has and passes on to its children, the nodes of all places in it have. -/
lemma of_mem_subtree {P : Node → Prop} (hchild : ∀ n m, P n → m ∈ n.children → P m) (hq : P q.node)
    (hp : p ∈ q.subtree) : P p.node := by
  induction p, hp using subtree_induction with
  | top => exact hq
  | child r _ hr c hc =>
    obtain ⟨n, hn, rfl⟩ := List.mem_map.1 hc
    exact hchild _ n hr hn

lemma numbered_of_mem_subtree (hq : q.node.Numbered) (hp : p ∈ q.subtree) : p.node.Numbered :=
  of_mem_subtree (fun n _ hn hm => ((Node.numbered_iff n).1 hn).numbered hm) hq hp

/-- The numbers in a numbered tree are those from the one of its root on. -/
theorem ids_subtree (hp : p.node.Numbered) : p.subtree.map id = List.range' p.id p.node.size := by
  induction p using Place.induction with
  | step p ih =>
    have hforest : ∀ (cs : List Node) (k : ℕ), cs ⊆ p.node.children → Node.NumberedFrom k cs →
        (cs.flatMap fun n => subtree ⟨p.node :: p.above, n⟩).map id =
          List.range' k (Node.sizes cs) := by
      intro cs
      induction cs with
      | nil => intro k _ _; rfl
      | cons n rest ihrest =>
        intro k hsub hfrom
        rw [Node.NumberedFrom] at hfrom
        obtain ⟨rfl, hn, hrest⟩ := hfrom
        have hhead := ih ⟨p.node :: p.above, n⟩ (List.mem_map_of_mem (hsub List.mem_cons_self)) hn
        have htail := ihrest _ (fun m hm => hsub (List.mem_cons_of_mem _ hm)) hrest
        rw [List.flatMap_cons, List.map_append, hhead, htail, Node.sizes]
        exact List.range'_append_1
    have hchildren := hforest p.node.children (p.id + 1) (List.Subset.refl _)
      ((Node.numbered_iff _).1 hp)
    rw [subtree_eq, List.map_cons, children, List.flatMap_map, hchildren, Node.size_eq,
      List.range'_succ]

/-- The numbers below a place of a numbered tree are those that follow its own one. -/
lemma ids_children (hp : p.node.Numbered) : (p.children.flatMap subtree).map id =
    List.range' (p.id + 1) (Node.sizes p.node.children) := by
  have hids := ids_subtree hp
  rw [subtree_eq, List.map_cons, Node.size_eq, List.range'_succ] at hids
  exact (List.cons.inj hids).2

/-- The places in a place have different numbers. -/
def Distinct (p : Place) : Prop := (p.subtree.map id).Nodup

lemma distinct_of_numbered (hp : p.node.Numbered) : p.Distinct := by
  unfold Distinct
  rw [ids_subtree hp]
  exact List.nodup_range'

lemma Distinct.eq_of_id_eq {r : Place} (hr : r.Distinct) (hp : p ∈ r.subtree) (hq : q ∈ r.subtree)
    (hid : p.id = q.id) : p = q :=
  List.inj_on_of_nodup_map hr hp hq hid

/-- The children of a place appear among the places in it in their order. -/
lemma children_sublist_subtree (p : Place) : p.children.Sublist p.subtree := by
  have hheads : ∀ cs : List Place, cs.Sublist (cs.flatMap subtree) := by
    intro cs
    induction cs with
    | nil => exact List.Sublist.refl _
    | cons c rest ih =>
      rw [List.flatMap_cons, subtree_eq c, List.cons_append]
      exact (ih.trans (List.sublist_append_right _ _)).cons_cons c
  rw [subtree_eq]
  exact (hheads p.children).cons p

lemma subtree_sublist (hp : p ∈ q.subtree) : p.subtree.Sublist q.subtree := by
  induction q using Place.induction with
  | step q ih =>
    rcases mem_subtree_iff.1 hp with rfl | ⟨c, hc, hpc⟩
    · exact List.Sublist.refl _
    · rw [subtree_eq q]
      exact ((ih c hc hpc).trans (List.sublist_flatten_of_mem (List.mem_map_of_mem hc))).cons q

lemma Distinct.of_mem (hq : q.Distinct) (hp : p ∈ q.subtree) : p.Distinct :=
  ((subtree_sublist hp).map id).nodup hq

lemma Distinct.children (hp : p.Distinct) : (p.node.children.map Node.id).Nodup := by
  have hnodup := (p.children_sublist_subtree.map id).nodup hp
  rw [Place.children, List.map_map] at hnodup
  exact hnodup

/-- Numbers are names for the places of a numbered tree. -/
lemma eq_of_id_eq {r : Place} (hr : r.node.Numbered) (hp : p ∈ r.subtree) (hq : q ∈ r.subtree)
    (hid : p.id = q.id) : p = q :=
  (distinct_of_numbered hr).eq_of_id_eq hp hq hid

/-- Inside of a place of a numbered tree lie those places that have the numbers after its own. -/
theorem inside_iff {r : Place} (hr : r.node.Numbered) (hp : p ∈ r.subtree) (hq : q ∈ r.subtree) :
    p.Inside q ↔ q.id < p.id ∧ p.id < q.id + q.node.size := by
  have hids := ids_children (numbered_of_mem_subtree hr hq)
  have hsize := Node.size_eq q.node
  constructor
  · rintro hinside
    have hmem : p.id ∈ (q.children.flatMap subtree).map id :=
      List.mem_map_of_mem (List.mem_flatMap.2 hinside)
    rw [hids, List.mem_range'_1] at hmem
    omega
  · rintro ⟨hlow, hhigh⟩
    have hmem : p.id ∈ (q.children.flatMap subtree).map id := by
      rw [hids, List.mem_range'_1]
      omega
    obtain ⟨p', hp', hid⟩ := List.mem_map.1 hmem
    have hp'r : p' ∈ r.subtree :=
      subtree_subset hq (mem_subtree_iff.2 (.inr (List.mem_flatMap.1 hp')))
    rw [← eq_of_id_eq hr hp'r hp hid]
    exact List.mem_flatMap.1 hp'

end Place

/-! ## Loaded trees -/

/-- A tree that the loader accepts, with any of its address maps chosen as the export root. -/
inductive RegisterTree.Loaded : RegisterTree → Prop
  | whole {d : Description} {t : RegisterTree} (h : RegisterTree.ofDescription d = .ok t) : Loaded t
  | select {t t' : RegisterTree} {path : String} (ht : Loaded t) (h : t.selectTop path = .ok t') :
      Loaded t'

namespace Node

/-- What is checked of a node before it is built. -/
lemma ofDescription_eq_ok {above : String} {register : Option RegisterDetail} {id : ℕ}
    {a : Attributes} {ds : List Description} {n : Node}
    (h : ofDescription above register id (.mk a ds) = .ok n) :
    ∃ component nodes, a.toComponent (childPath above a.instName) register = .ok component ∧
      ofDescriptions (childPath above a.instName) component.detail (id + 1) ds = .ok nodes ∧
      (a.kind = .register → checkFields (childPath above a.instName) nodes = .ok ()) ∧
      n = .mk id component nodes := by
  simp only [ofDescription, bind, Except.bind, pure, Except.pure] at h
  split at h
  · cases h
  next component hcomponent =>
  split at h
  · cases h
  next nodes hnodes =>
  split at h
  · next hkind =>
    split at h
    · cases h
    next u hfields =>
    cases h
    exact ⟨component, nodes, hcomponent, hnodes, fun _ => hfields, rfl⟩
  · next hkind =>
    cases h
    exact ⟨component, nodes, hcomponent, hnodes, fun hk => absurd hk hkind, rfl⟩

lemma ofDescriptions_cons_eq_ok {path : String} {parent : Detail} {id : ℕ} {d : Description}
    {rest : List Description} {ns : List Node}
    (h : ofDescriptions path parent id (d :: rest) = .ok ns) :
    parent.kind.mayContain d.attributes.kind = true ∧ ∃ n nodes,
      ofDescription path parent.register? id d = .ok n ∧
      ofDescriptions path parent (id + n.size) rest = .ok nodes ∧ ns = n :: nodes := by
  simp only [ofDescriptions, bind, Except.bind, pure, Except.pure] at h
  split at h
  · next hkind =>
    split at h
    · cases h
    next n hn =>
    split at h
    · cases h
    next nodes hnodes =>
    cases h
    exact ⟨hkind, n, nodes, hn, hnodes, rfl⟩
  · cases h

mutual

theorem numbered_ofDescription {above : String} {register : Option RegisterDetail} {id : ℕ} :
    ∀ {d : Description} {n : Node}, ofDescription above register id d = .ok n →
      n.id = id ∧ n.Numbered
  | .mk a ds, n, h => by
    obtain ⟨component, nodes, -, hnodes, -, rfl⟩ := ofDescription_eq_ok h
    exact ⟨rfl, (numbered_iff _).2 (numberedFrom_ofDescriptions hnodes)⟩

theorem numberedFrom_ofDescriptions {path : String} {parent : Detail} {id : ℕ} :
    ∀ {ds : List Description} {ns : List Node}, ofDescriptions path parent id ds = .ok ns →
      NumberedFrom id ns
  | [], ns, h => by
    cases h
    exact trivial
  | d :: rest, ns, h => by
    obtain ⟨-, n, nodes, hn, hnodes, rfl⟩ := ofDescriptions_cons_eq_ok h
    exact ⟨(numbered_ofDescription hn).1, (numbered_ofDescription hn).2,
      numberedFrom_ofDescriptions hnodes⟩

end

end Node

namespace RegisterTree

variable {t t' : RegisterTree}

/-- The tree of a description is made of its root. -/
lemma ofDescription_eq_ok_iff {d : Description} : ofDescription d = .ok t ↔
    d.attributes.kind = .addressMap ∧
      ∃ root, Node.ofDescription "" none 0 d = .ok root ∧ t = ⟨root, ⟨[], root⟩⟩ := by
  unfold ofDescription
  rw [show d.toNode.map _ = _ <$> d.toNode from rfl, map_eq_ok]
  unfold Description.toNode
  by_cases hkind : d.attributes.kind = .addressMap
  · simp [hkind, eq_comm]
  · simp [hkind]

lemma mem_subtree_of_descend {p q : Place} {names : List String} (h : p.descend names = some q) :
    q ∈ p.subtree := by
  induction names generalizing p with
  | nil =>
    cases h
    exact Place.mem_subtree_self _
  | cons name rest ih =>
    rw [Place.descend] at h
    split at h
    · next c hc =>
      exact Place.subtree_subset (Place.mem_subtree_iff.2
        (.inr ⟨c, List.mem_of_find?_eq_some hc, c.mem_subtree_self⟩)) (ih h)
    · cases h

lemma selectTop_eq_ok {path : String} (h : t.selectTop path = .ok t') :
    ∃ p, t.find? path = some p ∧ p.node.kind = .addressMap ∧ t' = { t with top := p } := by
  unfold selectTop at h
  split at h
  · cases h
  next p hp =>
  split at h
  · next hkind =>
    cases h
    exact ⟨p, hp, hkind, rfl⟩
  · cases h

/-- The root of a loaded tree was made of the description of an address map. -/
lemma Loaded.exists_description (ht : t.Loaded) : ∃ d : Description,
    d.attributes.kind = .addressMap ∧ Node.ofDescription "" none 0 d = .ok t.root := by
  induction ht with
  | @whole d t h =>
    obtain ⟨hkind, root, hroot, rfl⟩ := ofDescription_eq_ok_iff.1 h
    exact ⟨d, hkind, hroot⟩
  | select _ h ih =>
    obtain ⟨p, -, -, rfl⟩ := selectTop_eq_ok h
    exact ih

/-- The nodes of a loaded tree are numbered in order, and its export root is one of its places. -/
theorem Loaded.numbered (ht : t.Loaded) :
    t.root.Numbered ∧ t.top ∈ Place.subtree ⟨[], t.root⟩ := by
  obtain ⟨d, -, hroot⟩ := ht.exists_description
  refine ⟨(Node.numbered_ofDescription hroot).2, ?_⟩
  clear hroot
  induction ht with
  | whole h =>
    obtain ⟨-, root, -, rfl⟩ := ofDescription_eq_ok_iff.1 h
    exact Place.mem_subtree_self _
  | @select t t' path _ h ih =>
    obtain ⟨p, hp, -, rfl⟩ := selectTop_eq_ok h
    unfold find? at hp
    split at hp
    · cases hp
    split at hp
    · next start hstart =>
      have hmem : start ∈ Place.subtree ⟨[], t.root⟩ := by
        rcases List.mem_cons.1 (List.mem_of_find?_eq_some hstart) with rfl | hroot
        · exact ih
        · rw [List.mem_singleton.1 hroot]
          exact Place.mem_subtree_self _
      exact Place.subtree_subset hmem (mem_subtree_of_descend hp)
    · cases hp

lemma Loaded.numbered_top (ht : t.Loaded) : t.top.node.Numbered :=
  Place.numbered_of_mem_subtree ht.numbered.1 ht.numbered.2

lemma Loaded.distinct_top (ht : t.Loaded) : t.top.Distinct :=
  Place.distinct_of_numbered ht.numbered_top

end RegisterTree

/-! ## Small trees -/

namespace Description

/-- A field that says nothing but its place, its access and some properties. -/
def field (name : String) (lsb msb : ℕ) (access : Access) (properties : Properties) : Description :=
  .mk { (default : Attributes) with
    kind := .field, instName := name, lsb := some lsb, msb := some msb, access := some access,
    properties } []

/-- A field that says nothing but its place and its value after reset. -/
def resetField (name : String) (lsb msb reset : ℕ) : Description :=
  .mk { (default : Attributes) with
    kind := .field, instName := name, lsb := some lsb, msb := some msb, reset := some reset } []

/-- A register of 32 bits with these fields. -/
def register (name : String) (offset : ℕ) (fields : List Description) : Description :=
  .mk { (default : Attributes) with
    kind := .register, instName := name, offset, registerWidth := some 32 } fields

/-- A node that holds other nodes. -/
def group (kind : NodeKind) (name : String) (offset : ℕ) (parts : List Description) : Description :=
  .mk { (default : Attributes) with kind, instName := name, offset } parts

/-- The tree of a description, if it is accepted. -/
def tree (d : Description) : RegisterTree :=
  ((RegisterTree.ofDescription d).toOption).getD ⟨default, default⟩

lemma loaded_tree {d : Description} (h : (RegisterTree.ofDescription d).toOption.isSome = true) :
    d.tree.Loaded := by
  unfold tree
  cases hd : RegisterTree.ofDescription d with
  | error e => rw [hd] at h; cases h
  | ok t => exact .whole hd

end Description

namespace Place

/-- A child by its index, and the place itself if there is none. -/
def part (p : Place) (i : ℕ) : Place := p.children.getD i p

lemma part_mem_subtree {p q : Place} (hp : p ∈ q.subtree) (i : ℕ) : p.part i ∈ q.subtree := by
  rw [part, List.getD_eq_getElem?_getD]
  cases hi : p.children[i]? with
  | none => exact hp
  | some c => exact children_mem_subtree hp (List.mem_of_getElem? hi)

end Place

end RegisterMap
