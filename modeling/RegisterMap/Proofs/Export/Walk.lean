import Mathlib
import RegisterMap.Proofs.Export.Outcomes

/-!
# What the walk of an export notes

The walk visits places in the order of their numbers.  So the records it adds have growing numbers,
the last one first, and the record that a node shares was met at a place with a number that is not
larger than its own.  `Sound` collects what holds of the plan when all places before some number
were dealt with; a visit of a place takes it past all numbers in the place (`ends_visit`).

The walk is taken for any reading of its outcomes, and for any facts `T` about the hashes of visited
places and `K` about their shown children that hold in that reading.
-/

namespace RegisterMap

/-- The name of the type of a node with some hash. -/
def Component.hashedName (c : Component) (hash : ℤ) : String :=
  className c.scopePath c.baseTypeName hash

namespace Walk

variable {m : Type → Type} [Monad m] [MonadExceptOf ExportFault m] {L : Outcomes m} {w : Walk}

/-! ## Single steps -/

/-- The types of the plan are the same. -/
structure SameTypes (w w' : Walk) : Prop where
  records : w'.plan.records = w.plan.records
  typeOf : w'.plan.typeOf = w.plan.typeOf
  children : w'.plan.children = w.plan.children

lemma ends_register (name : String) :
    Ends L (register name : Walking m String) w fun _ w' => w'.plan = w.plan := by
  unfold register
  refine Ends.bind (Ends.get (P := fun a w' => w = a ∧ w = w') ⟨rfl, rfl⟩) ?_
  rintro _ _ ⟨rfl, rfl⟩
  split
  · exact Ends.throw
  · refine Ends.bind (Ends.modify (P := fun _ w' => w'.plan = w.plan) rfl) fun _ _ h => ?_
    exact Ends.pure h

lemma ends_addEnum (h : Hasher) (field : ℕ) (scope : Option String) (e : FieldEncoding) :
    Ends L (addEnum h field scope e : Walking m Unit) w fun _ w' => SameTypes w w' := by
  unfold addEnum change
  refine Ends.bind (Ends.modify (P := fun _ w' => SameTypes w w') ⟨rfl, rfl, rfl⟩) fun _ w₁ h₁ => ?_
  refine Ends.bind (Ends.get (P := fun a w' => w' = w₁) rfl) ?_
  rintro a w₂ rfl
  split
  · exact Ends.pure h₁
  · refine Ends.bind (ends_register _) fun _ w₃ h₃ => ?_
    refine Ends.modify ⟨?_, ?_, ?_⟩
    · rw [← h₁.records, ← h₃]
    · rw [← h₁.typeOf, ← h₃]
    · rw [← h₁.children, ← h₃]

/-- What becomes of the plan when the type of a place is noted; `fresh` says that it is a new one. -/
structure Added (p : Place) (hash : ℤ) (w : Walk) (fresh : Bool) (w' : Walk) : Prop where
  typeOf : w'.plan.typeOf = (p.id, some hash) :: w.plan.typeOf
  children : w'.plan.children = w.plan.children
  known : fresh = false → w'.plan.records = w.plan.records ∧
    ∃ r, w.plan.record? hash = some r ∧ r.name = p.node.component.hashedName hash
  new : fresh = true → w.plan.record? hash = none ∧ ∃ identifier,
    w'.plan.records = ⟨p, hash, p.node.component.hashedName hash, identifier⟩ :: w.plan.records

lemma ends_addType (h : Hasher) (t : RegisterTree) (p : Place) (hash : ℤ) :
    Ends L (addType h t p hash : Walking m Bool) w (Added p hash w) := by
  unfold addType change
  refine Ends.bind (Ends.modify (P := fun _ w' =>
    SameTypes { w with plan.typeOf := (p.id, some hash) :: w.plan.typeOf } w') ⟨rfl, rfl, rfl⟩) ?_
  intro _ w₁ h₁
  extract_lets decideType
  have hdecide : ∀ w₂, SameTypes { w with plan.typeOf := (p.id, some hash) :: w.plan.typeOf } w₂ →
      Ends L (decideType ()) w₂ (Added p hash w) := by
    intro w₂ h₂
    refine Ends.bind (Ends.get (P := fun a w' => w₂ = a ∧ w₂ = w') ⟨rfl, rfl⟩) ?_
    rintro _ _ ⟨rfl, rfl⟩
    have hrecord : w₂.plan.record? hash = w.plan.record? hash := by
      simp only [Plan.record?, h₂.records]
    split
    · next existing hexisting =>
      rw [hrecord] at hexisting
      split
      · next hname =>
        exact Ends.pure ⟨h₂.typeOf, h₂.children, fun _ => ⟨h₂.records, existing, hexisting, hname⟩,
          nofun⟩
      · exact Ends.throw
    · next hnone =>
      rw [hrecord] at hnone
      refine Ends.bind (ends_register _) fun identifier w₃ h₃ => ?_
      refine Ends.bind (Ends.modify (P := fun _ w' => Added p hash w true w') ?_) fun _ _ h =>
        Ends.pure h
      refine ⟨?_, ?_, nofun, fun _ => ⟨hnone, identifier, ?_⟩⟩
      · rw [h₃]; exact h₂.typeOf
      · rw [h₃]; exact h₂.children
      · rw [h₃]; exact congrArg (List.cons _) h₂.records
  split
  · exact Ends.bind (ends_addEnum _ _ _ _) fun _ w₂ h₂ => hdecide w₂
      ⟨h₂.records.trans h₁.records, h₂.typeOf.trans h₁.typeOf, h₂.children.trans h₁.children⟩
  · exact hdecide w₁ h₁

/-! ## What holds of the plan -/

/-- What is known in a reading about the places that a walk visits: they lie in a numbered tree,
their hashes and shown children have some properties, and shown children of visited places are
visited. -/
structure Facts (L : Outcomes m) (h : Hasher) (t : RegisterTree) (q : ShapeQueries m) (root : Place)
    (V : Place → Prop) (T : Place → TypeHash → Prop) (K : Place → Accessors → Prop) : Prop where
  numbered : root.node.Numbered
  inTree : ∀ p, V p → p ∈ root.subtree
  child : ∀ p children c, V p → K p children → c ∈ p.children →
    (children.any fun child => child.1.id == c.id) = true → V c
  type : ∀ p, V p → L.holds (typeHash h t q p.above p.node) (T p)
  children : ∀ p, V p → L.holds (q.children p) (K p)

/-- What holds when all places with numbers below `n` were dealt with. -/
structure Sound (V : Place → Prop) (T : Place → TypeHash → Prop) (K : Place → Accessors → Prop)
    (n : ℕ) (w : Walk) : Prop where
  /-- Records are of visited places. -/
  records : ∀ r ∈ w.plan.records,
    V r.place ∧ r.place.id < n ∧ T r.place (.hash r.hash) ∧
      r.name = r.place.node.component.hashedName r.hash
  /-- Records were met in the order of the numbers of their places. -/
  ordered : w.plan.records.Pairwise fun r r' => r'.place.id < r.place.id
  /-- Different records have different hashes. -/
  distinct : (w.plan.records.map (·.hash)).Nodup
  /-- Types are noted for visited places. -/
  types : ∀ id v, (id, v) ∈ w.plan.typeOf →
    ∃ p, V p ∧ p.id = id ∧ id < n ∧ T p (v.elim .plain .hash)
  /-- A hash that was noted has a record, of a place that was met before or is the same. -/
  met : ∀ id v, (id, some v) ∈ w.plan.typeOf → ∃ r ∈ w.plan.records, r.hash = v ∧ r.place.id ≤ id
  /-- Children are noted for visited places. -/
  children : ∀ id children, (id, children) ∈ w.plan.children →
    ∃ p, V p ∧ p.id = id ∧ K p children

variable {V : Place → Prop} {T : Place → TypeHash → Prop} {K : Place → Accessors → Prop} {n n' : ℕ}

lemma Sound.empty (n : ℕ) : Sound V T K n {} where
  records := by simp
  ordered := by simp
  distinct := by simp
  types := by simp
  met := by simp
  children := by simp

lemma Sound.mono (hw : Sound V T K n w) (h : n ≤ n') : Sound V T K n' w where
  records r hr := by
    obtain ⟨hV, hn, hT⟩ := hw.records r hr
    exact ⟨hV, hn.trans_le h, hT⟩
  ordered := hw.ordered
  distinct := hw.distinct
  types id v hv := by
    obtain ⟨p, hV, hid, hn, hT⟩ := hw.types id v hv
    exact ⟨p, hV, hid, hn.trans_le h, hT⟩
  met := hw.met
  children := hw.children

lemma Sound.plain {p : Place} (hw : Sound V T K p.id w) (hV : V p) (hT : T p .plain) :
    Sound V T K (p.id + 1) { w with plan.typeOf := (p.id, none) :: w.plan.typeOf } where
  records := (hw.mono (Nat.le_succ _)).records
  ordered := hw.ordered
  distinct := hw.distinct
  types id v hv := by
    rcases List.mem_cons.1 hv with heq | hv
    · cases heq
      exact ⟨p, hV, rfl, Nat.lt_succ_self _, hT⟩
    · exact (hw.mono (Nat.le_succ _)).types id v hv
  met id v hv := by
    rcases List.mem_cons.1 hv with heq | hv
    · cases heq
    · exact hw.met id v hv
  children := hw.children

/-- A hash is known once a record has it. -/
lemma record?_eq_none_iff {plan : Plan} {hash : ℤ} :
    plan.record? hash = none ↔ ∀ r ∈ plan.records, r.hash ≠ hash := by
  simp [Plan.record?, List.find?_eq_none]

lemma Sound.added {p : Place} {hash : ℤ} {fresh : Bool} {w' : Walk} (hw : Sound V T K p.id w)
    (hV : V p) (hT : T p (.hash hash)) (h : Added p hash w fresh w') :
    Sound V T K (p.id + 1) w' := by
  have htypes : ∀ id v, (id, v) ∈ w'.plan.typeOf →
      ∃ p', V p' ∧ p'.id = id ∧ id < p.id + 1 ∧ T p' (v.elim .plain .hash) := by
    intro id v hv
    rw [h.typeOf] at hv
    rcases List.mem_cons.1 hv with heq | hv
    · cases heq
      exact ⟨p, hV, rfl, Nat.lt_succ_self _, hT⟩
    · exact (hw.mono (Nat.le_succ _)).types id v hv
  have hchildren := hw.children
  rw [← h.children] at hchildren
  cases fresh with
  | false =>
    obtain ⟨hrecords, r, hr, -⟩ := h.known rfl
    refine ⟨?_, ?_, ?_, htypes, ?_, hchildren⟩
    · rw [hrecords]; exact (hw.mono (Nat.le_succ _)).records
    · rw [hrecords]; exact hw.ordered
    · rw [hrecords]; exact hw.distinct
    · rw [hrecords, h.typeOf]
      intro id v hv
      rcases List.mem_cons.1 hv with heq | hv
      · cases heq
        have hmem : r ∈ w.plan.records := List.mem_of_find?_eq_some hr
        exact ⟨r, hmem, by simpa using List.find?_some hr, (hw.records r hmem).2.1.le⟩
      · exact hw.met id v hv
  | true =>
    obtain ⟨hnone, identifier, hrecords⟩ := h.new rfl
    refine ⟨?_, ?_, ?_, htypes, ?_, hchildren⟩ <;> rw [hrecords]
    · intro r hr
      rcases List.mem_cons.1 hr with rfl | hr
      · exact ⟨hV, Nat.lt_succ_self _, hT, rfl⟩
      · exact (hw.mono (Nat.le_succ _)).records r hr
    · exact List.pairwise_cons.2 ⟨fun r hr => (hw.records r hr).2.1, hw.ordered⟩
    · rw [List.map_cons, List.nodup_cons]
      refine ⟨fun hmem => ?_, hw.distinct⟩
      obtain ⟨r, hr, heq⟩ := List.mem_map.1 hmem
      exact record?_eq_none_iff.1 hnone r hr heq
    · rw [h.typeOf]
      intro id v hv
      rcases List.mem_cons.1 hv with heq | hv
      · cases heq
        exact ⟨_, List.mem_cons_self, rfl, le_refl _⟩
      · obtain ⟨r, hr, hhash, hle⟩ := hw.met id v hv
        exact ⟨r, List.mem_cons_of_mem _ hr, hhash, hle⟩

lemma Sound.withChildren {p : Place} {children : Accessors} (hw : Sound V T K n w) (hV : V p)
    (hK : K p children) :
    Sound V T K n { w with plan.children := (p.id, children) :: w.plan.children } where
  records := hw.records
  ordered := hw.ordered
  distinct := hw.distinct
  types := hw.types
  met := hw.met
  children id children hmem := by
    rcases List.mem_cons.1 hmem with heq | hmem
    · cases heq
      exact ⟨p, hV, rfl, hK⟩
    · exact hw.children id children hmem

/-- The type of a node is a record with the hash that was noted for the node. -/
lemma typeOf?_eq_some {plan : Plan} {id : ℕ} {r : TypeRecord} (h : plan.typeOf? id = some r) :
    r ∈ plan.records ∧ (id, some r.hash) ∈ plan.typeOf ∧ plan.record? r.hash = some r := by
  unfold Plan.typeOf? at h
  obtain ⟨hash, hlookup, hrecord⟩ := Option.bind_eq_some_iff.1 h
  obtain ⟨_, hlookup, rfl⟩ := Option.bind_eq_some_iff.1 hlookup
  have hhash : r.hash = hash := by simpa using List.find?_some hrecord
  rw [hhash]
  exact ⟨List.mem_of_find?_eq_some hrecord, mem_of_lookup hlookup, hrecord⟩

/-- The type of a node was met there or before. -/
lemma Sound.typeOf?_le (hw : Sound V T K n w) {id : ℕ} {r : TypeRecord}
    (h : w.plan.typeOf? id = some r) : r.place.id ≤ id := by
  obtain ⟨hr, hnoted, -⟩ := typeOf?_eq_some h
  obtain ⟨r', hr', hhash, hle⟩ := hw.met id r.hash hnoted
  rwa [List.inj_on_of_nodup_map hw.distinct hr hr' hhash.symm]

/-- The children noted for the node of a record satisfy what is known of the children there. -/
lemma Sound.childrenOf {root : Place} (hw : Sound V T K n w) (hroot : root.node.Numbered)
    (hV : ∀ p, V p → p ∈ root.subtree) {r : TypeRecord} (hr : r ∈ w.plan.records)
    {child : Place} {accessor : String} (hchild : (child, accessor) ∈ w.plan.childrenOf r.place.id) :
    K r.place (w.plan.childrenOf r.place.id) := by
  unfold Plan.childrenOf at hchild ⊢
  cases hlookup : w.plan.children.lookup r.place.id with
  | none => simp [hlookup] at hchild
  | some children =>
    obtain ⟨p, hp, hid, hK⟩ := hw.children _ _ (mem_of_lookup hlookup)
    rw [← Place.eq_of_id_eq hroot (hV p hp) (hV _ (hw.records r hr).1) hid]
    exact hK

/-! ## Visits -/

section Visits

variable [LawfulMonad m] {h : Hasher} {t : RegisterTree} {q : ShapeQueries m} {root : Place}

omit [LawfulMonad m] in
/-- The shown ones of some nodes are visited one after the other, so what holds of the nodes that are
still ahead holds in the end with none ahead. -/
lemma ends_visitShown {above : List Node} {children : Accessors} {I : List Node → Walk → Prop}
    {cs : List Node}
    (shown : ∀ n rest w, n ∈ cs → (children.any fun child => child.1.id == n.id) = true →
      I (n :: rest) w → Ends L (visit h t q above n) w fun _ w' => I rest w')
    (hidden : ∀ n rest w, (children.any fun child => child.1.id == n.id) = false →
      I (n :: rest) w → I rest w) (hw : I cs w) :
    Ends L (visitShown h t q above children cs) w fun _ w' => I [] w' := by
  induction cs generalizing w with
  | nil => exact Ends.pure hw
  | cons n rest ih =>
    have hrest := fun w hw => ih (w := w)
      (fun k rest' w' hk => shown k rest' w' (List.mem_cons_of_mem _ hk)) hw
    rw [visitShown_cons]
    split
    · next hany => exact Ends.bind (shown n rest w List.mem_cons_self hany hw) fun _ w' => hrest w'
    · next hany => exact hrest w (hidden n rest w (Bool.eq_false_iff.2 hany) hw)

/-- Visits that deal with the numbers in the shown ones of some nodes deal with the numbers in all. -/
lemma sound_visitShown {above : List Node} {children : Accessors} {cs : List Node} {k : ℕ}
    (hfrom : Node.NumberedFrom k cs)
    (hvisit : ∀ n w, n ∈ cs → (children.any fun child => child.1.id == n.id) = true →
      Sound V T K n.id w →
        Ends L (visit h t q above n) w fun _ w' => Sound V T K (n.id + n.size) w')
    (hw : Sound V T K k w) : Ends L (visitShown h t q above children cs) w fun _ w' =>
      Sound V T K (k + Node.sizes cs) w' := by
  have hpast : ∀ n rest j, Node.NumberedFrom j (n :: rest) →
      j + Node.sizes (n :: rest) = k + Node.sizes cs → j = n.id ∧
        Node.NumberedFrom (n.id + n.size) rest ∧
        n.id + n.size + Node.sizes rest = k + Node.sizes cs := by
    intro n rest j hfrom hsum
    rw [Node.NumberedFrom] at hfrom
    obtain ⟨rfl, -, hfrom⟩ := hfrom
    exact ⟨rfl, hfrom, by rw [Node.sizes] at hsum; omega⟩
  -- the numbers below the next node are dealt with
  refine Ends.imp (ends_visitShown (I := fun rest w => ∃ j, Node.NumberedFrom j rest ∧
    j + Node.sizes rest = k + Node.sizes cs ∧ Sound V T K j w) ?_ ?_ ⟨k, hfrom, rfl, hw⟩) ?_
  · rintro n rest w hn hany ⟨j, hfrom, hsum, hw⟩
    obtain ⟨rfl, hfrom, hsum⟩ := hpast n rest j hfrom hsum
    exact Ends.imp (hvisit n w hn hany hw) fun _ w' hw' => ⟨_, hfrom, hsum, hw'⟩
  · rintro n rest w - ⟨j, hfrom, hsum, hw⟩
    obtain ⟨rfl, hfrom, hsum⟩ := hpast n rest j hfrom hsum
    exact ⟨_, hfrom, hsum, hw.mono (Nat.le_add_right _ _)⟩
  · rintro _ w' ⟨j, -, hsum, hw'⟩
    exact hsum ▸ hw'

/-- A visit deals with all numbers in a place. -/
theorem ends_visit (facts : Facts L h t q root V T K) {p : Place} (hp : V p)
    (hw : Sound V T K p.id w) :
    Ends L (visit h t q p.above p.node) w fun _ w' => Sound V T K (p.id + p.node.size) w' := by
  induction p using Place.induction generalizing w with
  | step p ih =>
    have hnumbered := Place.numbered_of_mem_subtree facts.numbered (facts.inTree p hp)
    have hsize := Node.size_eq p.node
    have hpast : p.id + 1 ≤ p.id + p.node.size := by omega
    rw [visit_eq]
    refine Ends.bind (Ends.lift (facts.type p hp)) ?_
    rintro type w' ⟨hT, rfl⟩
    cases type with
    | plain => exact Ends.modify ((hw.plain hp hT).mono hpast)
    | hash hash =>
      refine Ends.bind (ends_addType h t _ hash) fun fresh w₁ hadded => ?_
      have hw₁ := hw.added hp hT hadded
      cases fresh with
      | false => exact Ends.pure (hw₁.mono hpast)
      | true =>
        refine Ends.bind (Ends.lift (facts.children p hp)) ?_
        rintro children w₂ ⟨hK, rfl⟩
        refine Ends.bind (Ends.modify (P := fun _ w' => Sound V T K (p.id + 1) w')
          (hw₁.withChildren hp hK)) fun _ w₃ hw₃ => ?_
        have hsizes : p.id + 1 + Node.sizes p.node.children = p.id + p.node.size := by omega
        refine hsizes ▸ sound_visitShown ((Node.numbered_iff _).1 hnumbered) ?_ hw₃
        intro n w₄ hn hany hw₄
        have hc : (⟨p.node :: p.above, n⟩ : Place) ∈ p.children := List.mem_map_of_mem hn
        exact ih _ hc (facts.child p children _ hp hK hc hany) hw₄

/-- What holds of the whole plan. -/
theorem holds_planned (facts : Facts L h t q t.top V T K) (htop : V t.top) :
    L.holds (planned h t q) fun plan => ∃ w, w.plan = plan ∧
      Sound V T K (t.top.id + t.top.node.size) w :=
  L.bind (ends_visit facts htop (Sound.empty _)) fun r hr => L.pure ⟨r.2, rfl, hr⟩

end Visits

end Walk

end RegisterMap
