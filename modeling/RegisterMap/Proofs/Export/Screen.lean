import Mathlib
import RegisterMap.Proofs.Export.Memory
import RegisterMap.Proofs.Results

/-!
# Trees in which it is decided what is hidden

Once it is decided for every node whether it is hidden, the shown children of a node, the hashes and
the plan are functions of the tree.  A `Screen` is such a decision, however it came about: by a
configuration alone, or by the answers that an export was given.  The functions here run the same
recursions as an export, without any memory.

A hash that is computed in this way is taken of one input, which holds what every shown child
contributes, in order (`typeHash_eq_ok`, `forall₂_items`).
-/

namespace RegisterMap

/-- Which nodes are hidden, once that is decided. -/
abbrev Screen := Place → Bool

namespace Screen

variable (hidden : Screen)

/-! ## Shown nodes -/

/-- The shown children of a place, in order. -/
def visibleChildren (p : Place) : List Place := p.children.filter fun c => !hidden c

/-- The shown children of a place with their accessor names. -/
def accessors (p : Place) : Accessors :=
  let visible := hidden.visibleChildren p
  visible.zip (accessorNames p.node.kind (visible.map (·.node)))

mutual

/-- The places in a node that are reached through shown ones, parents before children. -/
def placesOf (above : List Node) : Node → List Place
  | .mk id c cs => ⟨above, .mk id c cs⟩ :: placesIn (.mk id c cs :: above) cs

/-- The shown places among some nodes, and those reached in them. -/
def placesIn (above : List Node) : List Node → List Place
  | [] => []
  | n :: rest => (if hidden ⟨above, n⟩ then [] else placesOf above n) ++ placesIn above rest

end

/-- The place, and all places in it that are reached through shown ones. -/
def places (p : Place) : List Place := hidden.placesOf p.above p.node

variable {hidden} {p q c : Place}

lemma placesIn_eq_flatMap (above : List Node) (cs : List Node) : hidden.placesIn above cs =
    ((cs.map (Place.mk above)).filter fun c => !hidden c).flatMap hidden.places := by
  induction cs with
  | nil => rfl
  | cons n rest ih =>
    rw [placesIn, ih, List.map_cons, List.filter_cons]
    cases hidden ⟨above, n⟩ with
    | true => rfl
    | false => rfl

lemma places_eq (p : Place) :
    hidden.places p = p :: (hidden.visibleChildren p).flatMap hidden.places := by
  obtain ⟨above, ⟨id, c, cs⟩⟩ := p
  rw [places, placesOf, placesIn_eq_flatMap]
  rfl

lemma mem_places_self (p : Place) : p ∈ hidden.places p := by
  rw [places_eq]
  exact List.mem_cons_self

lemma mem_places_iff : p ∈ hidden.places q ↔
    p = q ∨ ∃ c ∈ hidden.visibleChildren q, p ∈ hidden.places c := by
  rw [places_eq, List.mem_cons, List.mem_flatMap]

lemma mem_children_of_visible (hc : c ∈ hidden.visibleChildren p) : c ∈ p.children :=
  List.mem_of_mem_filter hc

/-- Shown children of places that are reached are reached. -/
lemma visible_mem_places (hp : p ∈ hidden.places q) (hc : c ∈ hidden.visibleChildren p) :
    c ∈ hidden.places q := by
  induction q using Place.induction with
  | step q ih =>
    rcases mem_places_iff.1 hp with rfl | ⟨d, hd, hpd⟩
    · exact mem_places_iff.2 (.inr ⟨c, hc, mem_places_self c⟩)
    · exact mem_places_iff.2 (.inr ⟨d, hd, ih d (mem_children_of_visible hd) hpd⟩)

lemma places_subset (p : Place) : hidden.places p ⊆ p.subtree := by
  induction p using Place.induction with
  | step p ih =>
    intro r hr
    rcases mem_places_iff.1 hr with rfl | ⟨c, hc, hrc⟩
    · exact Place.mem_subtree_self r
    · have hchild := mem_children_of_visible hc
      exact Place.mem_subtree_iff.2 (.inr ⟨c, hchild, ih c hchild hrc⟩)

lemma places_subset_places (hp : p ∈ hidden.places q) : hidden.places p ⊆ hidden.places q := by
  induction p using Place.induction with
  | step p ih =>
    intro r hr
    rcases mem_places_iff.1 hr with rfl | ⟨c, hc, hrc⟩
    · exact hp
    · exact ih c (mem_children_of_visible hc) (visible_mem_places hp hc) hrc

/-- What holds of a place, and of the shown children of the places that it holds of, holds of all
places that are reached. -/
theorem places_induction {P : Place → Prop} {root : Place} (top : P root)
    (step : ∀ p ∈ hidden.places root, P p → ∀ c ∈ hidden.visibleChildren p, P c) :
    ∀ p ∈ hidden.places root, P p := by
  have hbelow : ∀ q ∈ hidden.places root, P q → ∀ p ∈ hidden.places q, P p := by
    intro q
    induction q using Place.induction with
    | step q ih =>
      intro hq hPq p hp
      rcases mem_places_iff.1 hp with rfl | ⟨c, hc, hpc⟩
      · exact hPq
      · exact ih c (mem_children_of_visible hc) (visible_mem_places hq hc) (step q hq hPq c hc) p hpc
  exact hbelow root (mem_places_self root) top

lemma map_fst_accessors (p : Place) :
    (hidden.accessors p).map Prod.fst = hidden.visibleChildren p :=
  map_fst_zip_accessorNames _ _

lemma fst_mem_of_mem_accessors {child : Place × String} (h : child ∈ hidden.accessors p) :
    child.1 ∈ hidden.visibleChildren p := by
  rw [← map_fst_accessors]
  exact List.mem_map_of_mem h

lemma exists_mem_accessors (hc : c ∈ hidden.visibleChildren p) :
    ∃ accessor, (c, accessor) ∈ hidden.accessors p := by
  rw [← map_fst_accessors] at hc
  obtain ⟨child, hchild, rfl⟩ := List.mem_map.1 hc
  exact ⟨child.2, hchild⟩

lemma accessors_sublist (p : Place) :
    ((hidden.accessors p).map Prod.fst).Sublist p.children := by
  rw [map_fst_accessors]
  exact List.filter_sublist

/-! ## Hashes -/

variable (hidden)

/-- The questions about the tree, answered by the decision. -/
def queries : ShapeQueries (Except ExportFault) where
  children p := pure (hidden.accessors p)
  known _ := pure none
  remember _ _ := pure ()

/-- The type hash of a place, by plain recursion on what is shown in it. -/
def typeHash (h : Hasher) (t : RegisterTree) (p : Place) : Except ExportFault TypeHash :=
  RegisterMap.typeHash h t hidden.queries p.above p.node

/-- What the shown children of a place contribute to its hash. -/
def items (h : Hasher) (t : RegisterTree) (p : Place) : Except ExportFault (List HashItem) :=
  contributions h t hidden.queries (p.node :: p.above) (p.node.kind == .register)
    (hidden.accessors p) p.node.children

/-- The plan of an export, computed without any memory. -/
def plan (h : Hasher) (t : RegisterTree) : Except ExportFault Plan :=
  if hidden t.top then .error (.topHidden (t.path t.top)) else Walk.planned h t hidden.queries

variable {hidden} {h : Hasher} {t : RegisterTree} {type : TypeHash}

/-- A finished plan is what a walk from the export root on has noted at its end. -/
lemma exists_walk_of_plan {plan : Plan} (hplan : hidden.plan h t = .ok plan) :
    ∃ w : Walk, w.plan = plan ∧
      (Walk.visit h t hidden.queries t.top.above t.top.node).run {} = .ok ((), w) := by
  obtain ⟨-, hplanned⟩ := ite_error_eq_ok.1 hplan
  obtain ⟨⟨u, w⟩, hrun, hw⟩ := bind_eq_ok.1 hplanned
  exact ⟨w, Except.ok.inj hw, hrun⟩

lemma typeHash_eq_shapeOf (p : Place) :
    hidden.typeHash h t p = shapeOf h t hidden.queries p := by
  rw [typeHash, RegisterMap.typeHash_eq]
  exact bind_pure (shapeOf h t hidden.queries p)

lemma typeHash_field {f : FieldDetail} (hf : p.node.detail = .field f) :
    hidden.typeHash h t p = .ok (h.fieldType p.node.component f) := by
  rw [typeHash_eq_shapeOf, shapeOf, hf]
  rfl

/-- The hash of a node that is no field is taken of what its shown children contribute. -/
theorem typeHash_eq_ok (hfield : p.node.kind ≠ .field) (htype : hidden.typeHash h t p = .ok type) :
    p.node.kind ≠ .signal ∧ ∃ items, hidden.items h t p = .ok items ∧
      type = h.nodeHash p.node.component ((hidden.accessors p).map (·.1.node)) items := by
  rw [typeHash_eq_shapeOf] at htype
  unfold shapeOf at htype
  split at htype
  · cases htype
  · next f hf => exact absurd (congrArg Detail.kind hf) hfield
  · next hsignal _ =>
    refine ⟨fun hkind => ?_, ?_⟩
    · unfold Node.kind Component.kind at hkind
      have hdetail : p.node.detail = p.node.component.detail := rfl
      cases hcases : p.node.component.detail with
      | signal => exact hsignal (hdetail.trans hcases)
      | _ => rw [hcases] at hkind; cases hkind
    · change (hidden.items h t p >>= fun items => pure (h.nodeHash _ _ items)) = .ok type at htype
      obtain ⟨items, hitems, htype⟩ := bind_eq_ok.1 htype
      exact ⟨items, hitems, (Except.ok.inj htype).symm⟩

/-! ## Contributions -/

/-- What a shown child contributes to the hash of a node of some kind, by its own hash. -/
def Contributes (hidden : Screen) (h : Hasher) (t : RegisterTree) (parent : NodeKind)
    (child : Place × String) (item : HashItem) : Prop :=
  ∃ type, hidden.typeHash h t child.1 = .ok type ∧
    if parent = .register then ∃ f, child.1.node.detail = .field f ∧
      item = Hasher.fieldContribution child.1.node.component f type child.2
    else item = h.nodeContribution child.1.node.component type child.2

lemma contributes_of_eq_ok {parent : NodeKind} {child : Place × String} {item : HashItem}
    (hitem : contributionOf h t hidden.queries (parent == .register) child.1 child.2 = .ok item) :
    hidden.Contributes h t parent child item := by
  unfold contributionOf at hitem
  change (if _ then _ else (hidden.typeHash h t child.1 >>= fun type => pure _)) = _ at hitem
  by_cases hparent : parent = .register
  · rw [if_pos (by simp [hparent])] at hitem
    split at hitem
    · next f hf =>
      change (hidden.typeHash h t child.1 >>= fun type => pure _) = _ at hitem
      obtain ⟨type, htype, hitem⟩ := bind_eq_ok.1 hitem
      refine ⟨type, htype, ?_⟩
      rw [if_pos hparent]
      exact ⟨f, hf, (Except.ok.inj hitem).symm⟩
    · cases hitem
  · rw [if_neg (by simp [hparent])] at hitem
    obtain ⟨type, htype, hitem⟩ := bind_eq_ok.1 hitem
    refine ⟨type, htype, ?_⟩
    rw [if_neg hparent]
    exact (Except.ok.inj hitem).symm

/-- The shown children of a place contribute in order. -/
theorem forall₂_items (hp : p.Distinct) {items : List HashItem}
    (hitems : hidden.items h t p = .ok items) :
    List.Forall₂ (hidden.Contributes h t p.node.kind) (hidden.accessors p) items := by
  unfold Screen.items at hitems
  rw [contributions_eq_mapM _ _ _ hp.children (accessors_sublist p)] at hitems
  exact forall₂_of_mapM_eq_ok (fun _ _ => contributes_of_eq_ok) hitems

end Screen

end RegisterMap
