import Mathlib
import RegisterMap.Proofs.Export.Memory
import RegisterMap.Proofs.Results
import RegisterMap.Proofs.Tree.Restriction

/-!
# Hidden nodes do not matter to a plan

When the nodes that are hidden are taken out of a tree, nothing of what is left is hidden, every node
shows the same children under the same accessor names, and every hash stays what it is.  So the plan
of the rest is the plan of the tree, up to the numbers of the nodes (`plan_tree`).
-/

namespace RegisterMap

namespace Restriction

/-- In the exported part of a tree those nodes are kept that are shown. -/
def KeepsShown (R : Restriction) (hide : Hiding) (t : RegisterTree) : Prop :=
  ∀ p ∈ t.top.subtree, R.keep p = !hide.isHidden t p

/-- The counterparts of shown children. -/
def accessors (R : Restriction) (children : Accessors) : Accessors :=
  children.map fun child => (R.place child.1, child.2)

variable {R : Restriction} {hide : Hiding} {h : Hasher} {t : RegisterTree} {p : Place}

/-! ## Shown nodes -/

@[simp] lemma hidesNode_place (p : Place) :
    hide.hidesNode (R.tree t) (R.place p) = hide.hidesNode t p := by
  rw [Hiding.hidesNode, Hiding.hidesNode, Hiding.marked, Hiding.marked, property?_place, path_tree]

/-- What is shown in a tree is shown in what is left of it. -/
lemma isHidden_place (hR : R.KeepsShown hide t) (hp : p ∈ t.top.subtree)
    (hshown : hide.isHidden t p = false) : hide.isHidden (R.tree t) (R.place p) = false := by
  unfold Hiding.isHidden at hshown ⊢
  rw [kind_place, hidesNode_place]
  simp only [Bool.or_eq_false_iff, Bool.and_eq_false_iff] at hshown ⊢
  refine ⟨hshown.1, hshown.2.imp_right fun hfields => ?_⟩
  -- a field that is shown is kept
  rw [List.all_eq_false] at hfields ⊢
  obtain ⟨c, hc, hchidden⟩ := hfields
  obtain ⟨hchild, hfield⟩ := List.mem_filter.1 hc
  have hckind : c.node.kind = .field := eq_of_beq hfield
  have hckept : R.keep c = true := by
    rw [hR c (Place.children_mem_subtree hp hchild), Hiding.isHidden, hckind]
    simp [hchidden]
  refine ⟨R.place c, List.mem_filter.2 ⟨?_, ?_⟩, ?_⟩
  · rw [children_place]
    exact List.mem_map_of_mem (List.mem_filter.2 ⟨hchild, hckept⟩)
  · rw [kind_place]
    exact hfield
  · rw [hidesNode_place]
    exact hchidden

lemma visibleChildren_place (hR : R.KeepsShown hide t) (hp : p ∈ t.top.subtree) :
    hide.visibleChildren (R.tree t) (R.place p) = (hide.visibleChildren t p).map R.place := by
  have hkept : p.children.filter R.keep = hide.visibleChildren t p :=
    List.filter_congr fun c hc => hR c (Place.children_mem_subtree hp hc)
  rw [Hiding.visibleChildren, children_place, hkept, List.filter_map]
  refine congrArg _ (List.filter_eq_self.2 fun c hc => ?_)
  obtain ⟨hchild, hshown⟩ := List.mem_filter.1 hc
  have hhidden := isHidden_place hR (Place.children_mem_subtree hp hchild)
    (by simpa using hshown)
  simp [hhidden]

lemma accessorNames_congr {kind : NodeKind} {ns ms : List Node}
    (heq : ns.map Node.accessorBase = ms.map Node.accessorBase) :
    accessorNames kind ns = accessorNames kind ms := by
  have hnames := congrArg (List.map Identifier.snakeCase) heq
  rw [List.map_map, List.map_map] at hnames
  exact congrArg (freshNames kind.reservedNames) hnames

/-- Counterparts show the same children under the same names. -/
lemma accessors_place (hR : R.KeepsShown hide t) (hp : p ∈ t.top.subtree) :
    hide.accessors (R.tree t) (R.place p) = R.accessors (hide.accessors t p) := by
  have hnames : accessorNames p.node.kind (((hide.visibleChildren t p).map R.place).map (·.node)) =
      accessorNames p.node.kind ((hide.visibleChildren t p).map (·.node)) := by
    refine accessorNames_congr ?_
    simp only [List.map_map]
    refine List.map_congr_left fun c _ => ?_
    simp [Node.accessorBase]
  unfold Hiding.accessors accessors
  rw [visibleChildren_place hR hp, kind_place]
  dsimp only
  rw [hnames, List.zip_map_left]
  rfl

/-! ## Hashes -/

lemma nodeHash_congr {c : Component} {ns ms : List Node} {inputs : List HashItem}
    (heq : ns.map Node.detail = ms.map Node.detail) :
    h.nodeHash c ns inputs = h.nodeHash c ms inputs := by
  have hfields : ns.filterMap (·.detail.field?) = ms.filterMap (·.detail.field?) := by
    have hdetails := congrArg (List.filterMap Detail.field?) heq
    rwa [List.filterMap_map, List.filterMap_map] at hdetails
  unfold Hasher.nodeHash Hasher.nodeInput Hasher.ownItems
  rw [hfields]

/-- Counterparts have the same hash. -/
theorem typeHash_place (hdistinct : t.top.Distinct) (hR : R.KeepsShown hide t)
    (hp : p ∈ t.top.subtree) :
    (R.place p).typeHash h hide (R.tree t) = p.typeHash h hide t := by
  induction p using Place.induction with
  | step p ih =>
    have hvisible : ∀ child ∈ hide.accessors t p, child.1 ∈ p.children := fun child hchild =>
      List.mem_of_mem_filter ((hide.map_fst_accessors t p) ▸ List.mem_map_of_mem hchild)
    have hcontribution : ∀ inRegister, ∀ child ∈ hide.accessors t p,
        contributionOf h (R.tree t) (hide.queries (R.tree t)) inRegister (R.place child.1) child.2 =
          contributionOf h t (hide.queries t) inRegister child.1 child.2 := by
      intro inRegister child hchild
      have htype := ih child.1 (hvisible child hchild)
        (Place.children_mem_subtree hp (hvisible child hchild))
      unfold Place.typeHash at htype
      unfold contributionOf
      rw [htype, detail_place, component_place, path_tree, kind_place]
    have hsub : ((hide.accessors t p).map Prod.fst).Sublist p.children := by
      rw [hide.map_fst_accessors]
      exact List.filter_sublist
    have hsub' : ((hide.accessors (R.tree t) (R.place p)).map Prod.fst).Sublist
        (R.place p).children := by
      rw [hide.map_fst_accessors]
      exact List.filter_sublist
    have hpdistinct := hdistinct.of_mem hp
    have hcontributions : ∀ inRegister,
        contributions h (R.tree t) (hide.queries (R.tree t)) ((R.place p).node :: (R.place p).above)
          inRegister (hide.accessors (R.tree t) (R.place p)) (R.place p).node.children =
        contributions h t (hide.queries t) (p.node :: p.above) inRegister (hide.accessors t p)
          p.node.children := by
      intro inRegister
      rw [contributions_eq_mapM _ _ _ (distinct_place hpdistinct).children hsub',
        contributions_eq_mapM _ _ _ hpdistinct.children hsub, accessors_place hR hp, accessors,
        List.mapM_map]
      exact mapM_congr (hcontribution inRegister)
    have hnodes : ∀ inputs, h.nodeHash p.node.component
        ((hide.accessors (R.tree t) (R.place p)).map (·.1.node)) inputs =
        h.nodeHash p.node.component ((hide.accessors t p).map (·.1.node)) inputs := by
      intro inputs
      refine nodeHash_congr ?_
      rw [accessors_place hR hp, accessors, List.map_map, List.map_map, List.map_map]
      exact List.map_congr_left fun child _ => detail_place child.1
    rw [plain_typeHash, plain_typeHash, shapeOf, shapeOf, detail_place, component_place, path_tree,
      kind_place]
    split
    · rfl
    · rfl
    · change (contributions h (R.tree t) (hide.queries (R.tree t)) _ _ _ _ >>= _) =
        (contributions h t (hide.queries t) _ _ _ _ >>= _)
      rw [hcontributions]
      exact congrArg _ (funext fun inputs => congrArg _ (hnodes inputs))

/-! ## Plans -/

/-- The counterpart of a record. -/
def record (R : Restriction) (r : TypeRecord) : TypeRecord := { r with place := R.place r.place }

/-- The counterpart of a plan. -/
def plan (R : Restriction) (plan : Plan) : Plan where
  records := plan.records.map R.record
  typeOf := plan.typeOf.map (Prod.map R.number id)
  children := plan.children.map (Prod.map R.number R.accessors)
  enums := plan.enums
  enumOf := plan.enumOf.map (Prod.map R.number id)

/-- What is found under a number is found under its counterpart. -/
lemma lookup_map {α β : Type} (f : α → β) (l : List (ℕ × α)) (i : ℕ) :
    (l.map (Prod.map R.number f)).lookup (R.number i) = (l.lookup i).map f := by
  induction l with
  | nil => rfl
  | cons note rest ih =>
    rw [List.map_cons, List.lookup_cons, List.lookup_cons, ih]
    by_cases heq : i = note.1
    · simp [heq]
    · have hne : R.number i ≠ R.number note.1 := fun h => heq (R.injective h)
      rw [Prod.map_fst, beq_eq_false_iff_ne.2 hne, beq_eq_false_iff_ne.2 heq]

@[simp] lemma record?_plan (plan : Plan) (hash : ℤ) :
    (R.plan plan).record? hash = (plan.record? hash).map R.record := by
  rw [Plan.record?, Restriction.plan, List.find?_map]
  rfl

@[simp] lemma typeOf?_plan (plan : Plan) (i : ℕ) :
    (R.plan plan).typeOf? (R.number i) = (plan.typeOf? i).map R.record := by
  have hlookup : (R.plan plan).typeOf.lookup (R.number i) = plan.typeOf.lookup i := by
    rw [Restriction.plan, lookup_map, Option.map_id, id]
  rw [Plan.typeOf?, Plan.typeOf?, hlookup]
  cases (plan.typeOf.lookup i).bind fun hash => hash with
  | none => rfl
  | some hash => exact record?_plan plan hash

@[simp] lemma isPlain_plan (plan : Plan) (i : ℕ) :
    (R.plan plan).isPlain (R.number i) = plan.isPlain i := by
  rw [Plan.isPlain, Plan.isPlain, Restriction.plan, lookup_map, Option.map_id, id]

@[simp] lemma childrenOf_plan (plan : Plan) (i : ℕ) :
    (R.plan plan).childrenOf (R.number i) = R.accessors (plan.childrenOf i) := by
  rw [Plan.childrenOf, Plan.childrenOf, Restriction.plan, lookup_map]
  cases plan.children.lookup i <;> rfl

@[simp] lemma enumOf?_plan (plan : Plan) (i : ℕ) :
    (R.plan plan).enumOf? (R.number i) = plan.enumOf? i := by
  rw [Plan.enumOf?, Plan.enumOf?, Restriction.plan, lookup_map, Option.map_id, id]

/-- The counterpart of a state of the walk. -/
def walk (R : Restriction) (w : Walk) : Walk := ⟨R.plan w.plan, w.identifiers⟩

/-- From one state of the walk and its counterpart, two steps end alike: with one fault, or with one
value in a state and its counterpart. -/
def Mirrors {α : Type} (R : Restriction) (w : Walk) (x y : Walking (Except ExportFault) α) : Prop :=
  y.run (R.walk w) = (x.run w).map fun r => (r.1, R.walk r.2)

section Walks

variable {α β : Type} {w : Walk} {x y : Walking (Except ExportFault) α}
  {f g : α → Walking (Except ExportFault) β}

lemma Mirrors.pure (a : α) : R.Mirrors w (Pure.pure a) (Pure.pure a) := rfl

lemma Mirrors.throw (e : ExportFault) :
    R.Mirrors w (MonadExcept.throw e : Walking (Except ExportFault) α) (MonadExcept.throw e) := rfl

lemma Mirrors.bind (hx : R.Mirrors w x y) (hf : ∀ a w', R.Mirrors w' (f a) (g a)) :
    R.Mirrors w (x >>= f) (y >>= g) := by
  unfold Mirrors at hx ⊢
  rw [StateT.run_bind, StateT.run_bind, hx]
  cases x.run w with
  | error e => rfl
  | ok r => exact hf r.1 r.2

lemma Mirrors.get {f g : Walk → Walking (Except ExportFault) β}
    (h : R.Mirrors w (f w) (g (R.walk w))) :
    R.Mirrors w (MonadState.get >>= f) (MonadState.get >>= g) := h

lemma Mirrors.modify {f g : Walk → Walk} (h : g (R.walk w) = R.walk (f w)) :
    R.Mirrors w (modify f) (modify g) := congrArg (fun w' => Except.ok (PUnit.unit, w')) h

/-- A question outside of the walk that has one answer. -/
lemma Mirrors.lift {z z' : Except ExportFault α} (hz : z' = z)
    (hf : ∀ a, z = .ok a → R.Mirrors w (f a) (g a)) :
    R.Mirrors w (liftM z >>= f) (liftM z' >>= g) := by
  subst hz
  cases z' with
  | error e => rfl
  | ok a => exact hf a rfl

/-- A question outside of the walk that is answered without fail. -/
lemma Mirrors.lift_pure {γ δ : Type} {f : γ → Walking (Except ExportFault) β}
    {g : δ → Walking (Except ExportFault) β} {c : γ} {d : δ} (h : R.Mirrors w (f c) (g d)) :
    R.Mirrors w (liftM (Pure.pure c : Except ExportFault γ) >>= f)
      (liftM (Pure.pure d : Except ExportFault δ) >>= g) := h

lemma mirrors_register (name : String) : R.Mirrors w (Walk.register name) (Walk.register name) := by
  unfold Walk.register
  refine Mirrors.get ?_
  have hidentifiers : (R.walk w).identifiers = w.identifiers := rfl
  rw [hidentifiers]
  cases w.identifiers.register name with
  | error e => exact Mirrors.throw e
  | ok r => exact Mirrors.bind (Mirrors.modify rfl) fun _ _ => Mirrors.pure _

lemma mirrors_addEnum (i : ℕ) (scope : Option String) (e : FieldEncoding) :
    R.Mirrors w (Walk.addEnum h i scope e) (Walk.addEnum h (R.number i) scope e) := by
  unfold Walk.addEnum Walk.change
  refine Mirrors.bind (Mirrors.modify rfl) fun _ w' => ?_
  refine Mirrors.get ?_
  have henums : (R.walk w').plan.enums = w'.plan.enums := rfl
  rw [henums]
  split
  · exact Mirrors.pure _
  · exact Mirrors.bind (mirrors_register _) fun _ _ => Mirrors.modify rfl

lemma mirrors_addType (p : Place) (hash : ℤ) :
    R.Mirrors w (Walk.addType h t p hash) (Walk.addType h (R.tree t) (R.place p) hash) := by
  unfold Walk.addType Walk.change
  rw [id_place, component_place, path_tree]
  refine Mirrors.bind (Mirrors.modify rfl) fun _ w' => ?_
  extract_lets decideType decideType'
  have hdecide : ∀ w', R.Mirrors w' (decideType ()) (decideType' ()) := by
    intro w'
    refine Mirrors.get ?_
    have hrecord : (R.walk w').plan.record? hash = (w'.plan.record? hash).map R.record :=
      record?_plan _ _
    rw [hrecord]
    cases w'.plan.record? hash with
    | none =>
      refine Mirrors.bind (mirrors_register _) fun _ _ => ?_
      exact Mirrors.bind (Mirrors.modify rfl) fun _ _ => Mirrors.pure _
    | some existing =>
      simp only [Option.map_some, record]
      split
      · exact Mirrors.pure _
      · exact Mirrors.throw _
  split
  · exact Mirrors.bind (mirrors_addEnum _ _ _) fun _ _ => hdecide _
  · exact hdecide _

/-- A child is among the shown ones exactly when it is kept. -/
lemma any_accessors (hdistinct : t.top.Distinct) (hR : R.KeepsShown hide t)
    (hp : p ∈ t.top.subtree) {c : Place} (hc : c ∈ p.children) :
    ((hide.accessors t p).any fun child => child.1.id == c.id) = R.keep c := by
  have hctop := Place.children_mem_subtree hp hc
  have hany : ((hide.accessors t p).any fun child => child.1.id == c.id) = true ↔
      c ∈ hide.visibleChildren t p := by
    rw [← hide.map_fst_accessors, List.any_eq_true]
    constructor
    · rintro ⟨child, hchild, hid⟩
      have hmem : child.1 ∈ hide.visibleChildren t p :=
        (hide.map_fst_accessors t p) ▸ List.mem_map_of_mem hchild
      have hchildtop := Place.children_mem_subtree hp (List.mem_of_mem_filter hmem)
      rw [← hdistinct.eq_of_id_eq hchildtop hctop (eq_of_beq hid)]
      exact List.mem_map_of_mem hchild
    · intro hmem
      obtain ⟨child, hchild, rfl⟩ := List.mem_map.1 hmem
      exact ⟨child, hchild, beq_self_eq_true _⟩
  rw [Bool.eq_iff_iff, hany, hR c hctop]
  exact List.mem_filter.trans (and_iff_right hc)

lemma any_accessors_number (children : Accessors) (i : ℕ) :
    ((R.accessors children).any fun child => child.1.id == R.number i) =
      children.any fun child => child.1.id == i := by
  rw [accessors, List.any_map]
  refine congrArg (fun test => children.any test) (funext fun child => ?_)
  rw [Bool.eq_iff_iff]
  simp [R.injective.eq_iff]

/-- The walk of what is left of some nodes goes as the walk of the nodes. -/
lemma mirrors_visitShown {above : List Node} {children : Accessors} {cs : List Node}
    (hvisits : ∀ n ∈ cs,
      (children.any fun child => child.1.id == n.id) = R.keep ⟨above, n⟩ ∧ ∀ w,
        R.Mirrors w (Walk.visit h t (hide.queries t) above n)
          (Walk.visit h (R.tree t) (hide.queries (R.tree t)) (R.above above) (R.node above n))) :
    R.Mirrors w (Walk.visitShown h t (hide.queries t) above children cs)
      (Walk.visitShown h (R.tree t) (hide.queries (R.tree t)) (R.above above)
        (R.accessors children) (R.nodes above cs)) := by
  induction cs generalizing w with
  | nil => exact Mirrors.pure ()
  | cons n rest ih =>
    have hrest := fun w => ih (w := w) fun k hk => hvisits k (List.mem_cons_of_mem _ hk)
    obtain ⟨hany, hhead⟩ := hvisits n List.mem_cons_self
    have hany' := any_accessors_number (R := R) children n.id
    rw [nodes]
    cases hkeep : R.keep ⟨above, n⟩ with
    | false =>
      rw [Walk.visitShown_cons, if_neg (Bool.eq_false_iff.1 (hany.trans hkeep)),
        if_neg Bool.false_ne_true]
      exact hrest w
    | true =>
      have hshown := hany.trans hkeep
      rw [← id_node (R := R) above] at hany'
      rw [Walk.visitShown_cons, if_pos hshown, if_pos rfl, Walk.visitShown_cons,
        if_pos (hany'.trans hshown)]
      exact Mirrors.bind (hhead w) fun _ w' => hrest w'

/-- The walk of what is left of a place goes as the walk of the place. -/
theorem mirrors_visit (hdistinct : t.top.Distinct) (hR : R.KeepsShown hide t)
    (hp : p ∈ t.top.subtree) :
    R.Mirrors w (Walk.visit h t (hide.queries t) p.above p.node)
      (Walk.visit h (R.tree t) (hide.queries (R.tree t)) (R.place p).above (R.place p).node) := by
  induction p using Place.induction generalizing w with
  | step p ih =>
    have htype : typeHash h (R.tree t) (hide.queries (R.tree t)) (R.place p).above (R.place p).node =
        typeHash h t (hide.queries t) p.above p.node := typeHash_place hdistinct hR hp
    have haccessors : (hide.queries (R.tree t)).children (R.place p) =
        (pure (R.accessors (hide.accessors t p)) : Except ExportFault Accessors) :=
      congrArg Except.ok (accessors_place hR hp)
    rw [Walk.visit_eq, Walk.visit_eq]
    refine Mirrors.lift htype fun type _ => ?_
    cases type with
    | plain => exact Mirrors.modify (by rw [id_place]; rfl)
    | hash hash =>
      refine Mirrors.bind (mirrors_addType p hash) fun fresh w' => ?_
      cases fresh with
      | false => exact Mirrors.pure ()
      | true =>
        rw [if_pos rfl, if_pos rfl, haccessors]
        refine Mirrors.lift_pure (c := hide.accessors t p) ?_
        refine Mirrors.bind (Mirrors.modify (by rw [id_place]; rfl)) fun _ w'' => ?_
        have hnodes : (R.place p).node.children = R.nodes (p.node :: p.above) p.node.children :=
          children_node p.above p.node
        rw [hnodes]
        refine mirrors_visitShown fun n hn => ?_
        have hc : (⟨p.node :: p.above, n⟩ : Place) ∈ p.children := List.mem_map_of_mem hn
        exact ⟨any_accessors hdistinct hR hp hc, fun w =>
          ih _ hc (Place.children_mem_subtree hp hc) (w := w)⟩

end Walks

/-- What is left of a tree without its hidden nodes has the same plan, in terms of what is left. -/
theorem plan_tree (hdistinct : t.top.Distinct) (hR : R.KeepsShown hide t)
    (htop : hide.isHidden t t.top = false) :
    hide.plan h (R.tree t) = (hide.plan h t).map R.plan := by
  have htop' : hide.isHidden (R.tree t) (R.tree t).top = false :=
    isHidden_place hR (Place.mem_subtree_self _) htop
  have hvisit : R.Mirrors {} (Walk.visit h t (hide.queries t) t.top.above t.top.node)
      (Walk.visit h (R.tree t) (hide.queries (R.tree t)) (R.place t.top).above
        (R.place t.top).node) :=
    mirrors_visit hdistinct hR (Place.mem_subtree_self t.top)
  unfold Mirrors at hvisit
  unfold Hiding.plan Walk.planned
  rw [htop, htop', if_neg Bool.false_ne_true, if_neg Bool.false_ne_true]
  have hempty : R.walk {} = {} := rfl
  rw [hempty] at hvisit
  change ((Walk.visit h (R.tree t) (hide.queries (R.tree t)) (R.place t.top).above
    (R.place t.top).node).run {} >>= fun r => pure r.2.plan) = _
  rw [hvisit]
  cases (Walk.visit h t (hide.queries t) t.top.above t.top.node).run {} <;> rfl

end Restriction

end RegisterMap
