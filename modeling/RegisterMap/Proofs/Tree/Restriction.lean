import Mathlib
import RegisterMap.Proofs.Tree.Order

/-!
# Restricted trees

A restriction of a tree leaves out some nodes with all that is in them and gives other numbers to
the rest, whatever these numbers are, as long as they are different.  Every place of the tree has a
counterpart with the same component, below the counterparts of the same nodes; so paths and
addresses stay what they are, and the children of a counterpart are those of the kept children.
-/

namespace RegisterMap

/-- A choice of nodes to keep, and numbers for them. -/
structure Restriction where
  /-- The node stays, if all nodes above it do. -/
  keep : Place → Bool
  /-- The number of a node by the number that it had. -/
  number : ℕ → ℕ
  injective : Function.Injective number

namespace Restriction

variable (R : Restriction)

mutual

/-- What is left of a node, given the nodes above it. -/
def node (above : List Node) : Node → Node
  | .mk id c cs => .mk (R.number id) c (nodes (.mk id c cs :: above) cs)

/-- What is left of several nodes. -/
def nodes (above : List Node) : List Node → List Node
  | [] => []
  | n :: rest => if R.keep ⟨above, n⟩ then node above n :: nodes above rest else nodes above rest

end

/-- What is left of the nodes above a place. -/
def above : List Node → List Node
  | [] => []
  | n :: rest => R.node rest n :: above rest

/-- The counterpart of a place. -/
def place (p : Place) : Place := ⟨R.above p.above, R.node p.above p.node⟩

/-- What is left of a tree, with the counterpart of the export root. -/
def tree (t : RegisterTree) : RegisterTree := ⟨R.node [] t.root, R.place t.top⟩

/-! ## Single nodes -/

variable {R} {p q : Place} {t : RegisterTree}

@[simp] lemma id_node (above : List Node) (n : Node) : (R.node above n).id = R.number n.id := by
  cases n
  rw [node]
  rfl

@[simp] lemma component_node (above : List Node) (n : Node) :
    (R.node above n).component = n.component := by
  cases n
  rw [node]
  rfl

@[simp] lemma id_place (p : Place) : (R.place p).id = R.number p.id := id_node _ _

@[simp] lemma component_place (p : Place) : (R.place p).node.component = p.node.component :=
  component_node _ _

@[simp] lemma detail_place (p : Place) : (R.place p).node.detail = p.node.detail :=
  congrArg Component.detail (component_place p)

@[simp] lemma kind_place (p : Place) : (R.place p).node.kind = p.node.kind :=
  congrArg Component.kind (component_place p)

@[simp] lemma instName_place (p : Place) : (R.place p).node.instName = p.node.instName :=
  congrArg Component.instName (component_place p)

@[simp] lemma property?_place (p : Place) (name : String) :
    (R.place p).node.property? name = p.node.property? name :=
  congrArg (fun c : Component => Properties.get? c.properties name) (component_place p)

lemma children_node (above : List Node) (n : Node) :
    (R.node above n).children = R.nodes (n :: above) n.children := by
  cases n
  rw [node]
  rfl

lemma nodes_eq (above : List Node) (cs : List Node) : R.nodes above cs =
    (cs.filter fun n => R.keep ⟨above, n⟩).map (R.node above) := by
  induction cs with
  | nil => rfl
  | cons n rest ih =>
    rw [nodes, ih, List.filter_cons]
    split <;> rfl

/-- The children of a counterpart are the counterparts of the kept children. -/
theorem children_place (p : Place) :
    (R.place p).children = (p.children.filter R.keep).map R.place := by
  rw [Place.children, place, children_node, nodes_eq, Place.children, List.filter_map, List.map_map,
    List.map_map]
  rfl

/-! ## Paths and numbers -/

lemma namesUpTo_above (id : ℕ) (ns : List Node) :
    Place.namesUpTo (R.number id) (R.above ns) = Place.namesUpTo id ns := by
  induction ns with
  | nil => rfl
  | cons n rest ih =>
    rw [above, Place.namesUpTo, Place.namesUpTo, ih, id_node, Node.instName, component_node,
      Node.instName]
    simp only [R.injective.eq_iff]

@[simp] lemma path_tree (p : Place) : (R.tree t).path (R.place p) = t.path p := by
  have hnames := namesUpTo_above (R := R) t.top.id (p.node :: p.above)
  rw [above] at hnames
  rw [RegisterTree.path, RegisterTree.path, tree, id_place, place, hnames]

lemma foldlM_offset_above (ns : List Node) (address : ℕ) :
    (R.above ns).foldlM (fun acc n => checkedSum acc n.component.offset) address =
      ns.foldlM (fun acc n => checkedSum acc n.component.offset) address := by
  induction ns generalizing address with
  | nil => rfl
  | cons n rest ih =>
    rw [above, List.foldlM_cons, List.foldlM_cons, component_node]
    exact congrArg _ (funext fun address => ih address)

@[simp] lemma address_place (p : Place) : (R.place p).address = p.address := by
  have haddress := foldlM_offset_above (R := R) (p.node :: p.above) 0
  rw [above] at haddress
  exact haddress

lemma ids_place_sublist (p : Place) :
    ((R.place p).subtree.map Place.id).Sublist (p.subtree.map fun q => R.number q.id) := by
  induction p using Place.induction with
  | step p ih =>
    have hforest : ∀ cs : List Place, cs ⊆ p.children →
        (((cs.filter R.keep).map R.place).flatMap Place.subtree |>.map Place.id).Sublist
          ((cs.flatMap Place.subtree).map fun q => R.number q.id) := by
      intro cs
      induction cs with
      | nil => intro _; exact List.Sublist.refl _
      | cons c rest ihrest =>
        intro hsub
        have hrest := ihrest fun d hd => hsub (List.mem_cons_of_mem _ hd)
        rw [List.filter_cons, List.flatMap_cons, List.map_append]
        split
        · rw [List.map_cons, List.flatMap_cons, List.map_append]
          exact (ih c (hsub List.mem_cons_self)).append hrest
        · exact hrest.trans (List.sublist_append_right _ _)
    rw [Place.subtree_eq, Place.subtree_eq p, List.map_cons, List.map_cons, children_place, id_place]
    exact (hforest p.children (List.Subset.refl _)).cons_cons _

/-- The nodes that are left have different numbers. -/
lemma distinct_place (hp : p.Distinct) : (R.place p).Distinct := by
  have hnumbers := (List.Nodup.map R.injective hp)
  rw [List.map_map] at hnumbers
  exact (ids_place_sublist p).nodup hnumbers

/-- A place stays in a tree when all places on the way to it are kept. -/
lemma place_mem_subtree (hp : p ∈ q.subtree)
    (hkeep : ∀ r, r.Inside q → p ∈ r.subtree → R.keep r = true) :
    R.place p ∈ (R.place q).subtree := by
  induction q using Place.induction with
  | step q ih =>
    rcases Place.mem_subtree_iff.1 hp with rfl | ⟨c, hc, hpc⟩
    · exact Place.mem_subtree_self _
    · have hplace := ih c hc hpc fun r hr hpr => hkeep r
        ⟨c, hc, Place.mem_subtree_iff.2 (.inr hr)⟩ hpr
      refine Place.mem_subtree_iff.2 (.inr ⟨R.place c, ?_, hplace⟩)
      rw [children_place]
      exact List.mem_map_of_mem (List.mem_filter.2
        ⟨hc, hkeep c ⟨c, hc, Place.mem_subtree_self c⟩ hpc⟩)

end Restriction

end RegisterMap
