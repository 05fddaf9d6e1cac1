import Mathlib
import RegisterMap.Proofs.Export.Completeness

/-!
# Why a plan fails

All nodes of a loaded tree have hashes but for signals, which are hidden: nothing but fields is
shown in a register (`exists_typeHash`).  So the walk through the tree goes on until two types get
in each other's way, by one hash with two names or by one identifier for two names.  Besides that, a
plan fails only where the export root itself is hidden (`failsOnly_plan`).
-/

namespace RegisterMap

/-- The fault is about the names of types. -/
inductive ExportFault.OfNames : ExportFault → Prop
  | mismatch (hash : ℤ) (path existing computed : String) :
    OfNames (.nameMismatch hash path existing computed)
  | collision (identifier first second : String) :
    OfNames (.identifierCollision identifier first second)

/-! ## Hashes of nodes -/

namespace Screen

/-- No signal is shown. -/
def HidesSignals (hidden : Screen) : Prop := ∀ p : Place, p.node.kind = .signal → hidden p = true

variable {hidden : Screen} {h : Hasher} {t : RegisterTree} {p c : Place}

lemma kind_ne_signal_of_visible (hsignals : hidden.HidesSignals)
    (hc : c ∈ hidden.visibleChildren p) : c.node.kind ≠ .signal := by
  intro hsignal
  have hshown : hidden c = false := by simpa using (List.mem_filter.1 hc).2
  rw [hsignals c hsignal] at hshown
  cases hshown

lemma kind_ne_signal (ht : t.Loaded) (hsignals : hidden.HidesSignals) :
    ∀ p ∈ hidden.places t.top, p.node.kind ≠ .signal := by
  refine places_induction ?_ fun p _ _ c hc => kind_ne_signal_of_visible hsignals hc
  rw [ht.kind_top]
  nofun

/-- Nothing but fields is shown in a register. -/
lemma field_of_register (ht : t.Loaded) (hsignals : hidden.HidesSignals)
    (hp : p ∈ t.top.subtree) (hregister : p.node.kind = .register)
    (hc : c ∈ hidden.visibleChildren p) : c.node.kind = .field := by
  have hcontain := ht.mayContain hp (mem_children_of_visible hc)
  have hsignal := kind_ne_signal_of_visible hsignals hc
  rw [hregister] at hcontain
  cases hkind : c.node.kind with
  | field => rfl
  | signal => exact absurd hkind hsignal
  | _ => rw [hkind] at hcontain; cases hcontain

/-- All nodes have hashes but for signals. -/
theorem exists_typeHash (ht : t.Loaded) (hsignals : hidden.HidesSignals)
    (hp : p ∈ t.top.subtree) (hsignal : p.node.kind ≠ .signal) :
    ∃ type, hidden.typeHash h t p = .ok type := by
  induction p using Place.induction with
  | step p ih =>
    rw [typeHash_eq_shapeOf]
    unfold shapeOf
    split
    · next hdetail => exact absurd (congrArg Detail.kind hdetail) hsignal
    · exact ⟨_, rfl⟩
    · have hitem : ∀ child ∈ hidden.accessors p, ∃ item, contributionOf h t hidden.queries
          (p.node.kind == .register) child.1 child.2 = .ok item ∧ True := by
        intro child hchild
        have hc := fst_mem_of_mem_accessors hchild
        have hcp := mem_children_of_visible hc
        obtain ⟨type, htype⟩ := ih child.1 hcp (Place.children_mem_subtree hp hcp)
          (kind_ne_signal_of_visible hsignals hc)
        unfold contributionOf
        split
        · next hregister =>
          obtain ⟨f, hf⟩ := exists_field (field_of_register ht hsignals hp (eq_of_beq hregister) hc)
          simp only [hf]
          exact ⟨_, bind_of_eq_ok htype, trivial⟩
        · exact ⟨_, bind_of_eq_ok htype, trivial⟩
      obtain ⟨items, hitems, -⟩ := exists_mapM_eq_ok hitem
      have hdistinct := ht.distinct_top.of_mem hp
      rw [← contributions_eq_mapM _ _ _ hdistinct.children (accessors_sublist p)] at hitems
      exact ⟨_, bind_of_eq_ok hitems⟩

end Screen

lemma Hiding.hidesSignals (hide : Hiding) (t : RegisterTree) :
    Screen.HidesSignals (hide.isHidden t) := by
  intro p hsignal
  simp [Hiding.isHidden, hsignal]

/-! ## The walk -/

namespace Walk

variable {α β : Type} {P : ExportFault → Prop} {x : Walking (Except ExportFault) α}
  {f : α → Walking (Except ExportFault) β} {w : Walk} {Q : α → Walk → Prop} {R : β → Walk → Prop}

/-- The step fails with such a fault, or ends with such a value and such a state of the walk. -/
def Runs (P : ExportFault → Prop) (x : Walking (Except ExportFault) α) (w : Walk)
    (Q : α → Walk → Prop) : Prop :=
  FailsOnly P (x.run w) ∧ Ends Outcomes.plain x w Q

/-- From whatever state it begins, the step fails for the names of types alone. -/
def FailsByName (x : Walking (Except ExportFault) α) : Prop :=
  ∀ w, FailsOnly ExportFault.OfNames (x.run w)

lemma Runs.pure {a : α} (h : Q a w) : Runs P (Pure.pure a) w Q := ⟨.ok _, Ends.pure h⟩

lemma Runs.throw {e : ExportFault} (he : P e) : Runs P (MonadExcept.throw e : Walking _ α) w Q :=
  ⟨.error he, Ends.throw⟩

lemma Runs.get {Q : Walk → Walk → Prop} (h : Q w w) : Runs P MonadState.get w Q :=
  ⟨.ok _, Ends.get h⟩

lemma Runs.modify {g : Walk → Walk} {Q : PUnit → Walk → Prop} (h : Q () (g w)) :
    Runs P (modify g) w Q :=
  ⟨.ok _, Ends.modify h⟩

lemma Runs.lift {z : Except ExportFault α} {T : α → Prop} (hfails : FailsOnly P z)
    (hends : ∀ a, z = .ok a → T a) : Runs P (liftM z) w fun a w' => T a ∧ w' = w := by
  refine ⟨fun e he => hfails e ?_, Ends.lift hends⟩
  cases z with
  | error e' => cases he; rfl
  | ok a => cases he

lemma Runs.bind (hx : Runs P x w Q) (hf : ∀ a w', Q a w' → Runs P (f a) w' R) :
    Runs P (x >>= f) w R := by
  refine ⟨?_, Ends.bind hx.2 fun a w' h => (hf a w' h).2⟩
  rw [StateT.run_bind]
  exact hx.1.bind fun r hr => (hf r.1 r.2 (hx.2 r hr)).1

/-- A name is refused only for its identifier. -/
lemma runs_register (hcollision : ∀ identifier first second,
    P (.identifierCollision identifier first second)) (name : String) :
    Runs P (register name) w fun _ w' => w'.plan = w.plan := by
  refine ⟨?_, ends_register name⟩
  unfold register
  refine (Runs.bind (Runs.get (Q := fun a w' => a = w') rfl) ?_ : Runs P _ w fun _ _ => True).1
  rintro w' _ rfl
  cases hregister : w'.identifiers.register name with
  | error e =>
    refine Runs.throw ?_
    unfold Identifiers.register at hregister
    dsimp only at hregister
    split at hregister
    · cases hregister
    · split at hregister
      · cases hregister
      · cases hregister
        exact hcollision _ _ _
  | ok r =>
    exact Runs.bind (Runs.modify (Q := fun _ _ => True) trivial) fun _ _ _ => Runs.pure trivial

variable {hidden : Screen} {h : Hasher} {t : RegisterTree} {p : Place}

lemma runs_addEnum (hcollision : ∀ identifier first second,
    P (.identifierCollision identifier first second)) (field : ℕ) (scope : Option String)
    (e : FieldEncoding) : Runs P (addEnum h field scope e) w fun _ w' => SameTypes w w' := by
  refine ⟨?_, ends_addEnum h field scope e⟩
  unfold addEnum change
  refine (Runs.bind (Runs.modify (Q := fun _ _ => True) trivial) fun _ w₁ _ => ?_ :
    Runs P _ w fun _ _ => True).1
  refine Runs.bind (Runs.get (Q := fun _ _ => True) trivial) fun _ w₂ _ => ?_
  split
  · exact Runs.pure trivial
  · exact Runs.bind (runs_register hcollision _) fun _ _ _ => Runs.modify trivial

/-- A type is refused for its identifier, or because its hash has a record of another name. -/
lemma runs_addType (hcollision : ∀ identifier first second,
    P (.identifierCollision identifier first second)) {hash : ℤ}
    (hmismatch : ∀ existing ∈ w.plan.records, existing.hash = hash →
      existing.name ≠ p.node.component.hashedName hash →
      P (.nameMismatch hash (t.path p) existing.name (p.node.component.hashedName hash))) :
    Runs P (addType h t p hash) w (Added p hash w) := by
  refine ⟨?_, ends_addType h t p hash⟩
  unfold addType change
  refine (Runs.bind (Runs.modify (Q := fun _ w' => w'.plan.records = w.plan.records) rfl)
    fun _ w₁ h₁ => ?_ : Runs P _ w fun _ _ => True).1
  extract_lets decideType
  have hdecide : ∀ w₂, w₂.plan.records = w.plan.records →
      Runs P (decideType ()) w₂ fun _ _ => True := by
    intro w₂ h₂
    refine Runs.bind (Runs.get (Q := fun a _ => a = w₂) rfl) ?_
    rintro _ w₃ rfl
    split
    · next existing hexisting =>
      rw [Plan.record?, h₂] at hexisting
      split
      · exact Runs.pure trivial
      · next hname =>
        refine Runs.throw (hmismatch existing (List.mem_of_find?_eq_some hexisting) ?_ hname)
        simpa using List.find?_some hexisting
    · refine Runs.bind (runs_register hcollision _) fun _ _ _ => ?_
      exact Runs.bind (Runs.modify (Q := fun _ _ => True) trivial) fun _ _ _ => Runs.pure trivial
  split
  · exact Runs.bind (runs_addEnum hcollision _ _ _) fun _ w₂ h₂ => hdecide w₂ (h₂.records.trans h₁)
  · exact hdecide w₁ h₁

/-- What every step of a visit keeps is kept by the visit, which fails like one of its steps. -/
theorem runs_visit (ht : t.Loaded) {I : Walk → Prop}
    (type : ∀ p ∈ hidden.places t.top, FailsOnly P (hidden.typeHash h t p))
    (plain : ∀ (p : Place) w, I w → I { w with plan.typeOf := (p.id, none) :: w.plan.typeOf })
    (children : ∀ (p : Place) shown w, I w →
      I { w with plan.children := (p.id, shown) :: w.plan.children })
    (added : ∀ p hash w, p ∈ hidden.places t.top → hidden.typeHash h t p = .ok (.hash hash) →
      I w → Runs P (addType h t p hash) w fun _ w' => I w')
    (hp : p ∈ hidden.places t.top) (hw : I w) :
    Runs P (visit h t hidden.queries p.above p.node) w fun _ w' => I w' := by
  induction p using Place.induction generalizing w with
  | step p ih =>
    have hforest : ∀ (cs : List Node) (w : Walk), cs ⊆ p.node.children → I w →
        Runs P (visitShown h t hidden.queries (p.node :: p.above) (hidden.accessors p) cs) w
          fun _ w' => I w' := by
      intro cs
      induction cs with
      | nil => exact fun w _ hw => Runs.pure hw
      | cons n rest ihrest =>
        intro w hsub hw
        have hrest := fun w => ihrest w fun k hk => hsub (List.mem_cons_of_mem _ hk)
        have hn : (⟨p.node :: p.above, n⟩ : Place) ∈ p.children :=
          List.mem_map_of_mem (hsub List.mem_cons_self)
        rw [visitShown_cons]
        split
        · next hany =>
          have hshown := (Screen.facts (h := h) ht).child p _ ⟨p.node :: p.above, n⟩ hp rfl hn hany
          exact Runs.bind (ih _ hn hshown hw) fun _ w' => hrest w'
        · exact hrest w hw
    rw [visit_eq]
    refine Runs.bind (Runs.lift (T := fun type => hidden.typeHash h t p = .ok type) (type p hp)
      fun _ htype => htype) ?_
    rintro found w' ⟨htype, rfl⟩
    cases found with
    | plain => exact Runs.modify (plain p _ hw)
    | hash hash =>
      refine Runs.bind (added p hash _ hp htype hw) fun fresh w₁ hw₁ => ?_
      cases fresh with
      | false => exact Runs.pure hw₁
      | true =>
        -- without a memory, the shown children are those of the screen
        have hchildren : Runs P (do
            change fun plan => { plan with children := (p.id, hidden.accessors p) :: plan.children }
            visitShown h t hidden.queries (p.node :: p.above) (hidden.accessors p)
              p.node.children) w₁ fun _ w' => I w' :=
          Runs.bind (Runs.modify (Q := fun _ w' => I w') (children p _ _ hw₁)) fun _ w₂ hw₂ =>
            hforest _ w₂ (List.Subset.refl _) hw₂
        exact hchildren

/-- The walk through what is shown in a loaded tree fails for the names of types alone. -/
theorem failsByName_visit (ht : t.Loaded) (hsignals : hidden.HidesSignals)
    (hp : p ∈ hidden.places t.top) : FailsByName (visit h t hidden.queries p.above p.node) := by
  intro w
  refine (runs_visit (I := fun _ => True) ht (fun p hp => ?_) (fun _ _ _ => trivial)
    (fun _ _ _ _ => trivial) (fun p hash w _ _ _ => ⟨?_, fun _ _ => trivial⟩) hp trivial).1
  · obtain ⟨type, htype⟩ := Screen.exists_typeHash (h := h) ht hsignals (Screen.places_subset _ hp)
      (Screen.kind_ne_signal ht hsignals p hp)
    exact .of_eq_ok htype
  · exact (runs_addType .collision fun _ _ _ _ => .mismatch _ _ _ _).1

end Walk

namespace Screen

variable {hidden : Screen} {h : Hasher} {t : RegisterTree}

/-- A plan fails where the export root is hidden, or for the names of types. -/
theorem failsOnly_plan (ht : t.Loaded) (hsignals : hidden.HidesSignals) :
    FailsOnly (fun fault => fault = .topHidden (t.path t.top) ∨ fault.OfNames)
      (hidden.plan h t) := by
  unfold Screen.plan
  split
  · exact .error (.inl rfl)
  · have hvisit := Walk.failsByName_visit (h := h) ht hsignals (mem_places_self t.top) {}
    exact (hvisit.imp fun _ => .inr).bind fun _ _ => .ok _

end Screen

end RegisterMap
