import Mathlib
import RegisterMap.Proofs.Export.Memory
import RegisterMap.Proofs.Export.PlanOrder

/-!
# The hash of a register

Under a register lie fields alone, whose hashes depend on nothing but the field.  So the hash of a
register is taken of one input that its shown fields determine (`registerInput`).  An export keeps to
this whatever predicate the caller hides nodes with and in whatever order it asks for hashes: the
shown children of a node never change once they are known, and the hash of a register is always that
of the shown children that are known for it (`leads_typeHash`, `Reached.faithful`).
-/

namespace RegisterMap

/-- A shown field of a register. -/
structure ShownField where
  /-- The field without what is in it. -/
  component : Component
  /-- What the field is. -/
  detail : FieldDetail
  /-- Its accessor name. -/
  accessor : String

/-- The fields among the shown children of a node, in order. -/
def Accessors.fields (children : Accessors) : List ShownField :=
  children.filterMap fun child => child.1.node.detail.field?.map fun f =>
    ⟨child.1.node.component, f, child.2⟩

namespace Hasher

/-- What a shown field contributes to its register. -/
def shownContribution (h : Hasher) (f : ShownField) : HashItem :=
  fieldContribution f.component f.detail (h.fieldType f.component f.detail) f.accessor

/-- The hash input of a register with these shown children. -/
def registerInput (h : Hasher) (c : Component) (children : Accessors) : HashItem :=
  h.nodeInput c (children.map (·.1.node)) (children.fields.map h.shownContribution)

end Hasher

variable {σ α β : Type}

namespace ExportMemory

/-- The shown children of a place, as far as they are remembered. -/
def shown (memory : ExportMemory σ) (p : Place) : Accessors := (memory.accessors.lookup p.id).getD []

/-- All shown children that are remembered here are remembered there as well. -/
def Within (memory memory' : ExportMemory σ) : Prop :=
  ∀ id children, memory.accessors.lookup id = some children →
    memory'.accessors.lookup id = some children

/-- The hash of a field is that of the field, and the hash of a register is that of the shown
children that are remembered for it, all of which are fields. -/
def Explains (memory : ExportMemory σ) (h : Hasher) (p : Place) (type : TypeHash) : Prop :=
  match p.node.detail with
  | .field f => type = h.fieldType p.node.component f
  | .register _ => ∃ children, memory.accessors.lookup p.id = some children ∧
      (∀ child ∈ children, child.1.node.kind = .field) ∧
      type = .hash (h.digest (h.registerInput p.node.component children))
  | _ => True

/-- The memory explains the hashes that it holds. -/
structure Faithful (e : Export σ) (memory : ExportMemory σ) : Prop where
  shown : ∀ id children, memory.accessors.lookup id = some children →
    ∀ p ∈ e.tree.top.subtree, p.id = id → (children.map Prod.fst).Sublist p.children
  types : ∀ id type, memory.types.lookup id = some type →
    ∀ p ∈ e.tree.top.subtree, p.id = id → memory.Explains e.hasher p type

variable {memory memory' memory'' : ExportMemory σ} {h : Hasher} {p : Place} {type : TypeHash}

lemma Within.refl (memory : ExportMemory σ) : memory.Within memory := fun _ _ h => h

lemma Within.trans (h : memory.Within memory') (h' : memory'.Within memory'') :
    memory.Within memory'' :=
  fun id children hlookup => h' id children (h id children hlookup)

lemma explains_field {f : FieldDetail} (hf : p.node.detail = .field f) :
    memory.Explains h p type ↔ type = h.fieldType p.node.component f := by
  unfold Explains
  rw [hf]

lemma explains_register {r : RegisterDetail} (hr : p.node.detail = .register r) :
    memory.Explains h p type ↔ ∃ children, memory.accessors.lookup p.id = some children ∧
      (∀ child ∈ children, child.1.node.kind = .field) ∧
      type = .hash (h.digest (h.registerInput p.node.component children)) := by
  unfold Explains
  rw [hr]

lemma Explains.mono (hexplains : memory.Explains h p type) (hwithin : memory.Within memory') :
    memory'.Explains h p type := by
  unfold Explains at *
  split at hexplains
  · exact hexplains
  · obtain ⟨children, hlookup, hfields, htype⟩ := hexplains
    exact ⟨children, hwithin _ _ hlookup, hfields, htype⟩
  · trivial

variable {e : Export σ} {children : Accessors}

lemma faithful_empty (s : σ) : (ExportMemory.empty s).Faithful e where
  shown _ _ hlookup := nomatch hlookup
  types _ _ hlookup := nomatch hlookup

/-- One more note of shown children changes nothing that is known. -/
lemma within_cons (hnone : memory.accessors.lookup p.id = none) :
    memory.Within { memory with accessors := (p.id, children) :: memory.accessors } := by
  intro id known hlookup
  have hne : id ≠ p.id := by
    rintro rfl
    rw [hnone] at hlookup
    cases hlookup
  simp only [List.lookup_cons, beq_eq_false_iff_ne.2 hne, hlookup]

lemma Faithful.cons_shown (hmemory : memory.Faithful e) (hroot : e.tree.top.node.Numbered)
    (hp : p ∈ e.tree.top.subtree) (hnone : memory.accessors.lookup p.id = none)
    (hsub : (children.map Prod.fst).Sublist p.children) :
    Faithful e { memory with accessors := (p.id, children) :: memory.accessors } where
  shown id known hfound p' hp' hid := by
    rcases lookup_cons_cases hfound with ⟨heq, rfl⟩ | hfound
    · rw [Place.eq_of_id_eq hroot hp' hp (hid.trans heq)]
      exact hsub
    · exact hmemory.shown id known hfound p' hp' hid
  types id type hfound p' hp' hid :=
    (hmemory.types id type hfound p' hp' hid).mono (within_cons hnone)

lemma Faithful.cons_type (hmemory : memory.Faithful e) (hroot : e.tree.top.node.Numbered)
    (hp : p ∈ e.tree.top.subtree) (hexplains : memory.Explains e.hasher p type) :
    Faithful e { memory with types := (p.id, type) :: memory.types } where
  shown := hmemory.shown
  types id known hfound p' hp' hid := by
    rcases lookup_cons_cases hfound with ⟨heq, rfl⟩ | hfound
    · rw [Place.eq_of_id_eq hroot hp' hp (hid.trans heq)]
      exact hexplains
    · exact hmemory.types id known hfound p' hp' hid

end ExportMemory

/-! ## Steps of an export -/

namespace Export

open ExportMemory

variable (e : Export σ)

/-- From a faithful memory the computation gets to a faithful one without changing what is known of
shown children; if it ends, then with such a value and memory. -/
def Leads (s : ExportMemory σ) (x : Exporting σ α) (P : α → ExportMemory σ → Prop) : Prop :=
  s.Faithful e → (x.run s).2.Faithful e ∧ s.Within (x.run s).2 ∧
    ∀ a, (x.run s).1 = .ok a → P a (x.run s).2

variable {e} {s : ExportMemory σ} {x : Exporting σ α} {f : α → Exporting σ β}
  {P : α → ExportMemory σ → Prop} {Q : β → ExportMemory σ → Prop}

lemma Leads.pure {a : α} (h : P a s) : Leads e s (Pure.pure a) P :=
  fun hs => ⟨hs, Within.refl s, fun _ ha => Except.ok.inj ha ▸ h⟩

lemma Leads.throw (fault : ExportFault) : Leads e s (MonadExcept.throw fault) P :=
  fun hs => ⟨hs, Within.refl s, fun _ ha => nomatch ha⟩

lemma Leads.bind (hx : Leads e s x P)
    (hf : ∀ a s', s.Within s' → P a s' → Leads e s' (f a) Q) : Leads e s (x >>= f) Q := by
  intro hs
  obtain ⟨hs', hwithin, hP⟩ := hx hs
  rw [Asking.run_bind]
  rcases hrun : x.run s with ⟨fault | a, s'⟩ <;> rw [hrun] at hs' hwithin hP
  · exact ⟨hs', hwithin, fun b hb => nomatch hb⟩
  · obtain ⟨hs'', hwithin', hQ⟩ := hf a s' hwithin (hP a rfl) hs'
    exact ⟨hs'', hwithin.trans hwithin', hQ⟩

/-- The memory at the beginning may be taken to be faithful. -/
lemma Leads.of_faithful (h : s.Faithful e → Leads e s x P) : Leads e s x P := fun hs => h hs hs

/-- A computation that looks into the memory. -/
lemma Leads.get {f : ExportMemory σ → Exporting σ β} (h : s.Faithful e → Leads e s (f s) Q) :
    Leads e s (MonadState.get >>= f) Q :=
  fun hs => h hs hs

/-- A computation that notes something in the memory. -/
lemma Leads.modify {g : ExportMemory σ → ExportMemory σ} {f : PUnit → Exporting σ β}
    (hg : s.Faithful e → (g s).Faithful e ∧ s.Within (g s)) (h : Leads e (g s) (f ()) Q) :
    Leads e s (modify g >>= f) Q := by
  intro hs
  obtain ⟨hfaithful, hwithin, hQ⟩ := h (hg hs).1
  exact ⟨hfaithful, (hg hs).2.trans hwithin, hQ⟩

/-- Items that are computed one after the other. -/
lemma Leads.mapM {ι : Type} {x : ι → Exporting σ α} {R : ι → α → Prop} {l : List ι}
    (h : ∀ i ∈ l, ∀ s', s.Within s' → Leads e s' (x i) fun a _ => R i a) :
    Leads e s (l.mapM x) fun as _ => List.Forall₂ R l as := by
  induction l generalizing s with
  | nil => exact Leads.pure .nil
  | cons i rest ih =>
    rw [List.mapM_cons]
    refine (h i List.mem_cons_self s (Within.refl s)).bind fun a s₁ h₁ ha => ?_
    refine (ih fun j hj s' h' => h j (List.mem_cons_of_mem _ hj) s' (h₁.trans h')).bind
      fun as s₂ _ has => ?_
    exact Leads.pure (.cons ha has)

/-! ## Questions -/

lemma leads_asking {y : Asking (HideState σ) α} {R : α → Prop}
    (hy : (Outcomes.under fun _ => True).holds y R) :
    Leads e s (asking y) fun a s' => R a ∧ s'.accessors = s.accessors :=
  fun hs => ⟨⟨hs.shown, hs.types⟩, Within.refl s, fun a ha => ⟨(hy s.hide trivial).2 a ha, rfl⟩⟩

/-- The shown children of a place, once asked for, are remembered. -/
lemma leads_children {p : Place} (hroot : e.tree.top.node.Numbered) (hp : p ∈ e.tree.top.subtree) :
    Leads e s (e.children p) fun children s' => s'.accessors.lookup p.id = some children := by
  have hvisible (ps : List Place) (s' : ExportMemory σ) : Leads e s'
      (asking (askVisible e.hide e.predicate e.tree ps)) fun visible s'' =>
        visible.Sublist ps ∧ s''.accessors = s'.accessors :=
    leads_asking (holds_askVisible ps)
  unfold children
  refine Leads.get fun _ => ?_
  split
  · next known hlookup =>
    refine (hvisible _ s).bind fun _ s' _ h' => Leads.pure ?_
    rw [h'.2, hlookup]
  · next hlookup =>
    refine (hvisible _ s).bind fun visible s' _ h' => ?_
    have hnone : s'.accessors.lookup p.id = none := by rw [h'.2, hlookup]
    refine Leads.modify (fun hs' => ⟨hs'.cons_shown hroot hp hnone ?_, within_cons hnone⟩) ?_
    · rw [map_fst_zip_accessorNames]
      exact h'.1
    · exact Leads.pure List.lookup_cons_self

/-- The fields among the shown children of a register contribute in order. -/
lemma map_shownContribution_eq {children : Accessors} {items : List HashItem}
    (h : List.Forall₂ (fun child item => ∃ f, child.1.node.detail = .field f ∧
      item = e.hasher.shownContribution ⟨child.1.node.component, f, child.2⟩) children items) :
    (∀ child ∈ children, child.1.node.kind = .field) ∧
      items = children.fields.map e.hasher.shownContribution := by
  induction h with
  | nil => exact ⟨by simp, rfl⟩
  | @cons child item children items hitem _ ih =>
    obtain ⟨f, hf, rfl⟩ := hitem
    refine ⟨fun c hc => ?_, ?_⟩
    · rcases List.mem_cons.1 hc with rfl | hc
      · exact congrArg Detail.kind hf
      · exact ih.1 c hc
    · rw [ih.2, Accessors.fields, Accessors.fields, List.filterMap_cons, hf]
      rfl

/-- What a field contributes to the hash of a register is explained by its own hash. -/
lemma leads_contributionOf {child : Place × String} {inRegister : Bool}
    (htype : Leads e s (e.typeHash child.1) fun type s' => s'.Explains e.hasher child.1 type) :
    Leads e s (contributionOf e.hasher e.tree e.queries inRegister child.1 child.2) fun item _ =>
      inRegister = true → ∃ f, child.1.node.detail = .field f ∧
        item = e.hasher.shownContribution ⟨child.1.node.component, f, child.2⟩ := by
  unfold contributionOf
  split
  · split
    · next f hf =>
      refine htype.bind fun type s' _ hexplains => Leads.pure fun _ => ⟨f, hf, ?_⟩
      rw [(explains_field hf).1 hexplains, Hasher.shownContribution]
    · exact Leads.throw _
  · next hnot =>
    exact htype.bind fun type s' _ _ => Leads.pure fun h => absurd h hnot

/-- A hash that is computed is explained by the memory, if those of the children are. -/
lemma leads_shapeOf {p : Place} (hroot : e.tree.top.node.Numbered) (hp : p ∈ e.tree.top.subtree)
    (htypes : ∀ c ∈ p.children, ∀ s' : ExportMemory σ,
      Leads e s' (e.typeHash c) fun type s'' => s''.Explains e.hasher c type) :
    Leads e s (shapeOf e.hasher e.tree e.queries p) fun type s' => s'.Explains e.hasher p type := by
  have hnodup := ((Node.numbered_iff _).1 (Place.numbered_of_mem_subtree hroot hp)).nodup.1
  unfold shapeOf
  split
  · exact Leads.throw _
  · next f hf => exact Leads.pure ((explains_field hf).2 rfl)
  · next hsignal hfield =>
    refine (leads_children hroot hp).bind fun children s₁ _ hlookup => ?_
    refine Leads.of_faithful fun hs₁ => ?_
    have hsub := hs₁.shown p.id children hlookup p hp rfl
    rw [contributions_eq_mapM _ _ _ hnodup hsub]
    refine (Leads.mapM fun child hchild s₂ _ => leads_contributionOf
      (htypes child.1 (hsub.subset (List.mem_map_of_mem hchild)) s₂)).bind
        fun items s₂ hwithin hall => ?_
    refine Leads.pure ?_
    unfold Explains
    split
    · next f hf => exact absurd hf (hfield f)
    · next r hr =>
      have hkind : p.node.kind = .register := congrArg Detail.kind hr
      simp only [hkind, beq_self_eq_true, forall_const] at hall
      obtain ⟨hfields, rfl⟩ := map_shownContribution_eq hall
      exact ⟨children, hwithin _ _ hlookup, hfields, rfl⟩
    · trivial

/-- Every hash that an export comes to is explained by its memory. -/
theorem leads_typeHash {p : Place} (hroot : e.tree.top.node.Numbered)
    (hp : p ∈ e.tree.top.subtree) :
    Leads e s (e.typeHash p) fun type s' => s'.Explains e.hasher p type := by
  induction p using Place.induction generalizing s with
  | step p ih =>
    unfold Export.typeHash
    rw [typeHash_eq]
    have hknown : Leads e s (e.queries.known p.id) fun known s' =>
        known = s.types.lookup p.id ∧ s' = s :=
      Leads.get fun _ => Leads.pure ⟨rfl, rfl⟩
    refine Leads.of_faithful fun hs => hknown.bind ?_
    rintro known _ - ⟨rfl, rfl⟩
    split
    · next known hlookup => exact Leads.pure (hs.types p.id known hlookup p hp rfl)
    · refine (leads_shapeOf hroot hp fun c hc _ => ih c hc (Place.children_mem_subtree hp hc)).bind
        fun type s₁ _ hexplains => ?_
      exact Leads.modify (fun hs₁ => ⟨hs₁.cons_type hroot hp hexplains, fun _ _ h => h⟩)
        (Leads.pure hexplains)

/-! ## Whole exports -/

/-- The memories that an export comes to by asking for shown children and for hashes, in any order
and whether it is answered or not. -/
inductive Reached (e : Export σ) : ExportMemory σ → Prop
  | fresh (s : σ) : Reached e (.empty s)
  | children {memory : ExportMemory σ} {p : Place} (h : Reached e memory)
      (hp : p ∈ e.tree.top.subtree) : Reached e ((e.children p).run memory).2
  | typeHash {memory : ExportMemory σ} {p : Place} (h : Reached e memory)
      (hp : p ∈ e.tree.top.subtree) : Reached e ((e.typeHash p).run memory).2

/-- All memories of an export are faithful. -/
theorem Reached.faithful {memory : ExportMemory σ} (ht : e.tree.Loaded) (h : e.Reached memory) :
    memory.Faithful e := by
  induction h with
  | fresh s => exact faithful_empty s
  | children _ hp ih => exact (leads_children ht.numbered_top hp ih).1
  | typeHash _ hp ih => exact (leads_typeHash ht.numbered_top hp ih).1

end Export

end RegisterMap
