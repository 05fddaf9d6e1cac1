import Mathlib
import RegisterMap.Proofs.Export.Likeness
import RegisterMap.Proofs.Export.PlanOrder

/-!
# A plan has every type once

The walk of an export skips what is in a node whose type it has met before, so it visits only some of
the shown nodes.  Nothing is lost: the node that the type was first met at is alike, what is shown in
it was visited, and has the same types (`Plans.covered`).  So the records of a plan have different
hashes, and these are the hashes of all shown nodes (`plan_complete`).

What a visit adds to the plan is `Walk.Grows`; what a finished plan says about the shown nodes, in
terms of the hashes and shown children that are computed without a memory, is `Screen.Plans`.
-/

namespace RegisterMap

/-! ## Visits -/

namespace Walk

variable {m : Type → Type} [Monad m] [MonadExceptOf ExportFault m] {L : Outcomes m} {w w' w'' : Walk}
  {V : Place → Prop} {T : Place → TypeHash → Prop} {K : Place → Accessors → Prop}

/-- A type was noted for the node with a number. -/
def Noted (w : Walk) (id : ℕ) : Prop := ∃ v, (id, v) ∈ w.plan.typeOf

/-- What steps of the walk add to the plan: all notes stay, and at the place of a new record the
shown children are noted, and a type for each of them. -/
structure Grows (K : Place → Accessors → Prop) (w w' : Walk) : Prop where
  types : w.plan.typeOf ⊆ w'.plan.typeOf
  children : w.plan.children ⊆ w'.plan.children
  records : ∀ r ∈ w'.plan.records, r ∈ w.plan.records ∨ ∃ children, K r.place children ∧
    (r.place.id, children) ∈ w'.plan.children ∧ ∀ child ∈ children, w'.Noted child.1.id

lemma Noted.mono {id : ℕ} (h : w.Noted id) (hgrows : w.Grows K w') : w'.Noted id := by
  obtain ⟨v, hv⟩ := h
  exact ⟨v, hgrows.types hv⟩

lemma Grows.refl (w : Walk) : w.Grows K w where
  types := List.Subset.refl _
  children := List.Subset.refl _
  records _ hr := .inl hr

lemma Grows.trans (h : w.Grows K w') (h' : w'.Grows K w'') : w.Grows K w'' where
  types := List.Subset.trans h.types h'.types
  children := List.Subset.trans h.children h'.children
  records r hr := by
    rcases h'.records r hr with hr | hnew
    · rcases h.records r hr with hr | ⟨children, hK, hnoted, htypes⟩
      · exact .inl hr
      · exact .inr ⟨children, hK, h'.children hnoted, fun child hchild =>
          (htypes child hchild).mono h'⟩
    · exact .inr hnew

/-- A node of a known type, or a plain field, adds a note of its type and nothing else. -/
lemma grows_of_known (hrecords : w'.plan.records = w.plan.records)
    (hchildren : w'.plan.children = w.plan.children) {id : ℕ} {v : Option ℤ}
    (htypes : w'.plan.typeOf = (id, v) :: w.plan.typeOf) : w.Grows K w' ∧ w'.Noted id := by
  refine ⟨⟨?_, ?_, ?_⟩, v, ?_⟩
  · rw [htypes]; exact List.subset_cons_self _ _
  · rw [hchildren]; exact List.Subset.refl _
  · rw [hrecords]; exact fun _ hr => .inl hr
  · rw [htypes]; exact List.mem_cons_self

/-- A node of a new type adds the record of that, with a note of what is shown at its place. -/
lemma grows_of_new {p : Place} {hash : ℤ} {children : Accessors} (hadded : Added p hash w true w')
    (hK : K p children)
    (hgrows : Grows K { w' with plan.children := (p.id, children) :: w'.plan.children } w'')
    (hnoted : ∀ child ∈ children, w''.Noted child.1.id) : w.Grows K w'' ∧ w''.Noted p.id := by
  obtain ⟨-, identifier, hrecords⟩ := hadded.new rfl
  have htypes : (p.id, some hash) :: w.plan.typeOf ⊆ w''.plan.typeOf := by
    rw [← hadded.typeOf]
    exact hgrows.types
  have hchildren : (p.id, children) :: w.plan.children ⊆ w''.plan.children := by
    rw [← hadded.children]
    exact hgrows.children
  refine ⟨⟨fun _ hv => htypes (List.mem_cons_of_mem _ hv),
    fun _ hv => hchildren (List.mem_cons_of_mem _ hv), fun r hr => ?_⟩,
    some hash, htypes List.mem_cons_self⟩
  rcases hgrows.records r hr with hr | hnew
  · dsimp only at hr
    rw [hrecords] at hr
    rcases List.mem_cons.1 hr with rfl | hr
    · exact .inr ⟨children, hK, hchildren List.mem_cons_self, hnoted⟩
    · exact .inl hr
  · exact .inr hnew

variable [LawfulMonad m] {h : Hasher} {t : RegisterTree} {q : ShapeQueries m} {root : Place}

/-- Visits that note the types of the shown ones of some nodes note them one after the other. -/
lemma grows_visitShown {above : List Node} {children : Accessors} {cs : List Node}
    (hvisit : ∀ n w, n ∈ cs → (children.any fun child => child.1.id == n.id) = true →
      Ends L (visit h t q above n) w fun _ w' => w.Grows K w' ∧ w'.Noted n.id) :
    Ends L (visitShown h t q above children cs) w fun _ w' => w.Grows K w' ∧
      ∀ n ∈ cs, (children.any fun child => child.1.id == n.id) = true → w'.Noted n.id := by
  -- what is shown is noted, or it is still ahead
  refine Ends.imp (ends_visitShown (I := fun rest w' => w.Grows K w' ∧ ∀ n ∈ cs,
    (children.any fun child => child.1.id == n.id) = true → n ∈ rest ∨ w'.Noted n.id) ?_ ?_
    ⟨.refl w, fun _ hn _ => .inl hn⟩) ?_
  · rintro n rest w₁ hn hany ⟨hgrows, hnoted⟩
    refine Ends.imp (hvisit n w₁ hn hany) fun _ w₂ h₂ => ⟨hgrows.trans h₂.1, fun k hk hkany => ?_⟩
    rcases hnoted k hk hkany with hahead | hk
    · rcases List.mem_cons.1 hahead with rfl | hk
      · exact .inr h₂.2
      · exact .inl hk
    · exact .inr (hk.mono h₂.1)
  · rintro n rest w₁ hany ⟨hgrows, hnoted⟩
    refine ⟨hgrows, fun k hk hkany => (hnoted k hk hkany).imp_left fun hahead => ?_⟩
    refine (List.mem_cons.1 hahead).resolve_left fun heq => ?_
    rw [heq, hany] at hkany
    cases hkany
  · rintro _ w₁ ⟨hgrows, hnoted⟩
    exact ⟨hgrows, fun k hk hkany => (hnoted k hk hkany).resolve_left List.not_mem_nil⟩

/-- A visit notes the type of the place, and adds no record without what is shown at its place. -/
theorem grows_visit (facts : Facts L h t q root V T K)
    (hshown : ∀ p children, K p children → ∀ child ∈ children, child.1 ∈ p.children) {p : Place}
    (hp : V p) : Ends L (visit h t q p.above p.node) w fun _ w' => w.Grows K w' ∧ w'.Noted p.id := by
  induction p using Place.induction generalizing w with
  | step p ih =>
    rw [visit_eq]
    refine Ends.bind (Ends.lift (facts.type p hp)) ?_
    rintro type w' ⟨-, rfl⟩
    cases type with
    | plain =>
      refine Ends.modify ?_
      apply grows_of_known (v := none)
      all_goals rfl
    | hash hash =>
      refine Ends.bind (ends_addType h t _ hash) fun fresh w₁ hadded => ?_
      cases fresh with
      | false =>
        exact Ends.pure (grows_of_known (hadded.known rfl).1 hadded.children hadded.typeOf)
      | true =>
        refine Ends.bind (Ends.lift (facts.children p hp)) ?_
        rintro children w₁ ⟨hK, rfl⟩
        refine Ends.bind (Ends.modify (P := fun _ w₂ =>
          w₂ = { w₁ with plan.children := (p.id, children) :: w₁.plan.children }) rfl) ?_
        rintro _ w₂ rfl
        have hvisit : ∀ n w, n ∈ p.node.children →
            (children.any fun child => child.1.id == n.id) = true →
            Ends L (visit h t q (p.node :: p.above) n) w fun _ w' =>
              w.Grows K w' ∧ w'.Noted n.id := by
          intro n w hn hany
          have hc : (⟨p.node :: p.above, n⟩ : Place) ∈ p.children := List.mem_map_of_mem hn
          exact ih _ hc (facts.child p children _ hp hK hc hany)
        refine Ends.imp (grows_visitShown hvisit) ?_
        rintro _ w₃ ⟨hgrows, hnoted⟩
        refine grows_of_new hadded hK hgrows fun child hchild => ?_
        obtain ⟨n, hn, hplace⟩ := List.mem_map.1 (hshown p children hK child hchild)
        rw [← hplace]
        refine hnoted n hn (List.any_eq_true.2 ⟨child, hchild, ?_⟩)
        rw [← hplace]
        exact beq_self_eq_true _

end Walk

/-! ## Finished plans -/

/-- Notes that agree are found. -/
lemma lookup_eq_some_of_mem {α : Type} {l : List (ℕ × α)} {id : ℕ} {a : α} (hmem : (id, a) ∈ l)
    (hsame : ∀ b, (id, b) ∈ l → b = a) : l.lookup id = some a := by
  cases hlookup : l.lookup id with
  | none => exact absurd (List.lookup_eq_none_iff.1 hlookup (id, a) hmem) (by simp)
  | some b => rw [hsame b (mem_of_lookup hlookup)]

namespace Screen

variable {hidden : Screen} {h : Hasher} {t : RegisterTree} {plan : Plan} {p q c : Place}

/-- What a finished plan says about the shown nodes of a tree. -/
structure Plans (hidden : Screen) (h : Hasher) (t : RegisterTree) (plan : Plan) : Prop where
  /-- Different records have different hashes. -/
  distinct : (plan.records.map (·.hash)).Nodup
  /-- Records are of shown places, with the hashes of these. -/
  records : ∀ r ∈ plan.records,
    r.place ∈ hidden.places t.top ∧ hidden.typeHash h t r.place = .ok (.hash r.hash)
  /-- The types that are noted are those of shown places. -/
  types : ∀ id v, (id, v) ∈ plan.typeOf →
    ∃ p ∈ hidden.places t.top, p.id = id ∧ hidden.typeHash h t p = .ok (v.elim .plain .hash)
  /-- A hash that was noted has a record. -/
  met : ∀ id v, (id, some v) ∈ plan.typeOf → ∃ r ∈ plan.records, r.hash = v
  /-- The type of the export root is noted. -/
  top : ∃ v, (t.top.id, v) ∈ plan.typeOf
  /-- The children of the place of a record are those that are shown there. -/
  children : ∀ r ∈ plan.records, plan.childrenOf r.place.id = hidden.accessors r.place
  /-- The types of what is shown at the place of a record are noted. -/
  closed : ∀ r ∈ plan.records, ∀ c ∈ hidden.visibleChildren r.place, ∃ v, (c.id, v) ∈ plan.typeOf

/-- What a walk without a memory knows of the places that it visits. -/
lemma facts (ht : t.Loaded) : Walk.Facts Outcomes.plain h t hidden.queries t.top
    (· ∈ hidden.places t.top) (fun p type => hidden.typeHash h t p = .ok type)
    (fun p children => children = hidden.accessors p) where
  numbered := ht.numbered_top
  inTree _ hp := places_subset _ hp
  child p children c hp hchildren hc hany := by
    obtain ⟨child, hchild, hid⟩ := List.any_eq_true.1 hany
    rw [hchildren] at hchild
    have hvisible := fst_mem_of_mem_accessors hchild
    have hptop := places_subset _ hp
    have heq : child.1 = c := ht.distinct_top.eq_of_id_eq
      (Place.children_mem_subtree hptop (mem_children_of_visible hvisible))
      (Place.children_mem_subtree hptop hc) (eq_of_beq hid)
    exact visible_mem_places hp (heq ▸ hvisible)
  type _ _ _ htype := htype
  children _ _ _ hchildren := (Except.ok.inj hchildren).symm

/-- The plan that is computed without a memory. -/
theorem plans_of_eq_ok (ht : t.Loaded) (hplan : hidden.plan h t = .ok plan) :
    hidden.Plans h t plan := by
  obtain ⟨w, rfl, hrun⟩ := exists_walk_of_plan hplan
  have htop : t.top ∈ hidden.places t.top := mem_places_self t.top
  have hsound := Walk.ends_visit (facts ht) htop (Walk.Sound.empty _) _ hrun
  obtain ⟨hgrows, hnoted⟩ := Walk.grows_visit (w := {}) (facts (h := h) ht)
    (fun p children hchildren child hchild => by
      rw [hchildren] at hchild
      exact mem_children_of_visible (fst_mem_of_mem_accessors hchild)) htop _ hrun
  have hnew : ∀ r ∈ w.plan.records, (r.place.id, hidden.accessors r.place) ∈ w.plan.children ∧
      ∀ child ∈ hidden.accessors r.place, w.Noted child.1.id := by
    intro r hr
    rcases hgrows.records r hr with hr | ⟨children, rfl, hchildren, htypes⟩
    · simp at hr
    · exact ⟨hchildren, htypes⟩
  refine ⟨hsound.distinct, fun r hr => ⟨(hsound.records r hr).1, (hsound.records r hr).2.2.1⟩, ?_, ?_,
    hnoted, ?_, ?_⟩
  · intro id v hv
    obtain ⟨p, hp, hid, -, htype⟩ := hsound.types id v hv
    exact ⟨p, hp, hid, htype⟩
  · intro id v hv
    obtain ⟨r, hr, hhash, -⟩ := hsound.met id v hv
    exact ⟨r, hr, hhash⟩
  · intro r hr
    have hlookup := lookup_eq_some_of_mem (hnew r hr).1 fun children hchildren => by
      obtain ⟨p, hp, hid, rfl⟩ := hsound.children _ _ hchildren
      rw [ht.distinct_top.eq_of_id_eq (places_subset _ hp)
        (places_subset _ (hsound.records r hr).1) hid]
    rw [Plan.childrenOf, hlookup, Option.getD_some]
  · intro r hr c hc
    obtain ⟨accessor, hchild⟩ := exists_mem_accessors hc
    exact (hnew r hr).2 (c, accessor) hchild

namespace Plans

variable (hplan : hidden.Plans h t plan) (ht : t.Loaded)

include hplan in
/-- The record of a hash is the only one. -/
lemma record?_eq {r : TypeRecord} (hr : r ∈ plan.records) : plan.record? r.hash = some r := by
  unfold Plan.record?
  cases hfound : plan.records.find? (·.hash == r.hash) with
  | none => exact absurd (List.find?_eq_none.1 hfound r hr) (by simp)
  | some r' =>
    have hhash : r'.hash = r.hash := by simpa using List.find?_some hfound
    rw [List.inj_on_of_nodup_map hplan.distinct (List.mem_of_find?_eq_some hfound) hr hhash]

include hplan ht in
/-- The type that is noted for a shown place is its type. -/
lemma typeHash_of_noted (hp : p ∈ hidden.places t.top) {v : Option ℤ}
    (hv : (p.id, v) ∈ plan.typeOf) : hidden.typeHash h t p = .ok (v.elim .plain .hash) := by
  obtain ⟨q, hq, hid, htype⟩ := hplan.types _ _ hv
  rwa [← ht.distinct_top.eq_of_id_eq (places_subset _ hq) (places_subset _ hp) hid]

include hplan ht in
/-- The type of a shown place for which a type was noted is that with its hash. -/
lemma typeOf?_eq (hp : p ∈ hidden.places t.top) (hnoted : ∃ v, (p.id, v) ∈ plan.typeOf) {v : ℤ}
    (htype : hidden.typeHash h t p = .ok (.hash v)) :
    ∃ r ∈ plan.records, plan.typeOf? p.id = some r ∧ r.hash = v := by
  have hsame : ∀ v', (p.id, v') ∈ plan.typeOf → v' = some v := by
    intro v' hv'
    have heq := Except.ok.inj ((hplan.typeHash_of_noted ht hp hv').symm.trans htype)
    cases v' with
    | none => cases heq
    | some v' => exact congrArg some (TypeHash.hash.inj heq)
  obtain ⟨v', hv'⟩ := hnoted
  rw [hsame v' hv'] at hv'
  obtain ⟨r, hr, rfl⟩ := hplan.met _ _ hv'
  refine ⟨r, hr, ?_, rfl⟩
  unfold Plan.typeOf?
  rw [lookup_eq_some_of_mem hv' hsame]
  exact hplan.record?_eq hr

/-- A place has a type, and a record if it is not plain. -/
def Covered (hidden : Screen) (h : Hasher) (t : RegisterTree) (plan : Plan) (p : Place) : Prop :=
  ∃ type, hidden.typeHash h t p = .ok type ∧ ∀ v, type = .hash v → ∃ r ∈ plan.records, r.hash = v

include hplan ht in
lemma covered_of_noted (hp : p ∈ hidden.places t.top) (hnoted : ∃ v, (p.id, v) ∈ plan.typeOf) :
    Covered hidden h t plan p := by
  obtain ⟨v, hv⟩ := hnoted
  refine ⟨_, hplan.typeHash_of_noted ht hp hv, fun v' hv' => ?_⟩
  cases v with
  | none => cases hv'
  | some v => exact hplan.met _ _ (TypeHash.hash.inj hv' ▸ hv)

lemma Covered.of_sharesType (hq : Covered hidden h t plan q) (hshare : hidden.SharesType h t p q) :
    Covered hidden h t plan p := by
  obtain ⟨type, htype, hrecord⟩ := hq
  obtain ⟨type', hp, hq⟩ := hshare
  rw [← Except.ok.inj (htype.symm.trans hq)] at hp
  exact ⟨type, hp, hrecord⟩

variable (hfree : h.CollisionFree (hidden.hashed h t t.top))

include hplan ht hfree in
/-- A shown place with the hash of a record is alike to the place of that. -/
theorem alike (hp : p ∈ hidden.places t.top) {r : TypeRecord} (hr : r ∈ plan.records)
    (htype : hidden.typeHash h t p = .ok (.hash r.hash)) : hidden.Alike h t p r.place := by
  obtain ⟨hplace, hplacetype⟩ := hplan.records r hr
  exact alike_of_sharesType hfree ht (places_subset _ hp) (places_subset _ hplace)
    (hashed_subset_hashed hp) (hashed_subset_hashed hplace) ⟨_, htype, hplacetype⟩

include hplan ht hfree in
/-- All shown places have types, and records if they are not plain.  A child of a place that the
walk skipped has a counterpart in the place of the record, and the type of that was noted. -/
theorem covered : ∀ p ∈ hidden.places t.top, Covered hidden h t plan p := by
  refine places_induction (hplan.covered_of_noted ht (mem_places_self _) hplan.top) ?_
  intro p hp hcovered c hc
  obtain ⟨type, htype, hrecord⟩ := hcovered
  have hptop := places_subset _ hp
  have hfield : p.node.kind ≠ .field := by
    intro hkind
    have hchild := mem_children_of_visible hc
    rw [ht.children_field hptop hkind] at hchild
    cases hchild
  cases type with
  | plain => exact absurd (field_of_plain htype) hfield
  | hash v =>
    obtain ⟨r, hr, rfl⟩ := hrecord v rfl
    have halike := hplan.alike ht hfree hp hr htype
    obtain ⟨accessor, hchild⟩ := exists_mem_accessors hc
    obtain ⟨child', hchild', hshare⟩ := exists_of_forall₂ (halike.sharesType hfield) hchild
    have hvisible := fst_mem_of_mem_accessors hchild'
    have hcovered' := hplan.covered_of_noted ht
      (visible_mem_places (hplan.records r hr).1 hvisible) (hplan.closed r hr _ hvisible)
    exact hcovered'.of_sharesType hshare

end Plans

end Screen

namespace Export

variable {σ : Type} {e : Export σ} {s : σ} {plan : Plan} {memory : ExportMemory σ}

/-- A plan has one record for every hash of a shown node, and no others.  What is shown is decided by
the answers that the export was given, with any answers about nodes that it did not ask for. -/
theorem plan_complete (ht : e.tree.Loaded) (h : e.plan.run (.empty s) = (.ok plan, memory))
    {answers : HideAnswers} (hanswers : memory.told.Stays answers)
    (hfree : e.hasher.CollisionFree (answers.screen.hashed e.hasher e.tree e.tree.top)) :
    (plan.records.map (·.hash)).Nodup ∧
      (∀ p ∈ answers.screen.places e.tree.top, ∃ type,
        answers.screen.typeHash e.hasher e.tree p = .ok type) ∧
      (∀ v, v ∈ plan.records.map (·.hash) ↔ ∃ p ∈ answers.screen.places e.tree.top,
        answers.screen.typeHash e.hasher e.tree p = .ok (.hash v)) ∧
      ∀ r ∈ plan.records, plan.record? r.hash = some r := by
  have hplan := Screen.plans_of_eq_ok ht (plan_eq_ok ht h hanswers)
  have hcovered := hplan.covered ht hfree
  refine ⟨hplan.distinct, fun p hp => ?_, fun v => ⟨fun hv => ?_, ?_⟩, fun r hr => hplan.record?_eq hr⟩
  · obtain ⟨type, htype, -⟩ := hcovered p hp
    exact ⟨type, htype⟩
  · obtain ⟨r, hr, rfl⟩ := List.mem_map.1 hv
    exact ⟨r.place, hplan.records r hr⟩
  · rintro ⟨p, hp, hv⟩
    obtain ⟨type, htype, hrecord⟩ := hcovered p hp
    obtain ⟨r, hr, rfl⟩ := hrecord v (Except.ok.inj (htype.symm.trans hv))
    exact List.mem_map_of_mem hr

/-! ## Two registers of one type -/

/-- An address map of two registers of one shape. -/
def sharedRegisters : RegisterTree :=
  (Description.group .addressMap "t" 0 [.register "a" 0 [.resetField "x" 0 3 5],
    .register "b" 4 [.resetField "x" 0 3 5]]).tree

/-- What the export is told of the nodes of the two registers: all of them are shown. -/
def allShown : HideAnswers := [(4, false), (3, false), (2, false), (1, false), (0, false)]

lemma loaded_sharedRegisters : sharedRegisters.Loaded :=
  Description.loaded_tree (by decide +kernel)

/-- The two registers have a plan of two types. -/
lemma run_sharedRegisters : ∃ plan memory,
    (quick sharedRegisters).plan.run (.empty ()) = (.ok plan, memory) ∧
      plan.records.length = 2 ∧ memory.told = allShown := by
  have hrun : ∃ plan ∈ ((quick sharedRegisters).plan.run (.empty ())).1.toOption,
      plan.records.length = 2 ∧
        ((quick sharedRegisters).plan.run (.empty ())).2.told = allShown := by
    decide +kernel
  obtain ⟨plan, hplan, hlength, htold⟩ := hrun
  exact ⟨plan, _, run_of_mem hplan, hlength, htold⟩

lemma collisionFree_sharedRegisters : (quick sharedRegisters).hasher.CollisionFree
    (allShown.screen.hashed (quick sharedRegisters).hasher sharedRegisters sharedRegisters.top) := by
  decide +kernel

/-- The two registers have one record, and the address map another one. -/
theorem registers_have_one_record : ∃ plan memory,
    (quick sharedRegisters).plan.run (.empty ()) = (.ok plan, memory) ∧ plan.records.length = 2 ∧
      ∀ v, v ∈ plan.records.map (·.hash) ↔ ∃ p ∈ allShown.screen.places sharedRegisters.top,
        allShown.screen.typeHash (quick sharedRegisters).hasher sharedRegisters p =
          .ok (.hash v) := by
  obtain ⟨plan, memory, hrun, hlength, htold⟩ := run_sharedRegisters
  have hstays : memory.told.Stays allShown := htold ▸ HideAnswers.Stays.refl _
  obtain ⟨-, -, hrecords, -⟩ := plan_complete (e := quick sharedRegisters) loaded_sharedRegisters
    hrun hstays collisionFree_sharedRegisters
  exact ⟨plan, memory, hrun, hlength, hrecords⟩

end Export

end RegisterMap
