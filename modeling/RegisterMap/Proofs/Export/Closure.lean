import Mathlib
import RegisterMap.Proofs.Export.Completeness

/-!
# What a plan can be asked

What is generated for a record looks up the children shown at the place of the record: the type of a
child, unless it is a plain field, and the enumeration of a field that has one.  A plan is `Closed`
when none of these questions is left open.  Every finished plan is (`closed_of_eq_ok`), whether or
not two hash inputs have one digest: a child of a record was visited itself, and the visit noted its
type and its enumeration.
-/

namespace RegisterMap

/-- What is noted of the children of records leads to records. -/
structure Plan.Closed (plan : Plan) : Prop where
  /-- A child of a record has a type, or is a plain field. -/
  types : ∀ r ∈ plan.records, ∀ child ∈ plan.childrenOf r.place.id,
    (plan.typeOf? child.1.id).isSome ∨ plan.isPlain child.1.id
  /-- A child of a record that has an enumeration has the record of one. -/
  enums : ∀ r ∈ plan.records, ∀ child ∈ plan.childrenOf r.place.id, ∀ f,
    child.1.node.detail = .field f → f.encoding.isSome → (plan.enumOf? child.1.id).isSome

namespace Walk

variable {m : Type → Type} [Monad m] [MonadExceptOf ExportFault m] {L : Outcomes m} {w : Walk}
  {V : Place → Prop} {T : Place → TypeHash → Prop} {K : Place → Accessors → Prop} {h : Hasher}
  {t : RegisterTree} {q : ShapeQueries m} {root : Place}

/-- What every step of a visit keeps is kept by the visit. -/
theorem ends_visit_of_steps [LawfulMonad m] (facts : Facts L h t q root V T K) {I : Walk → Prop}
    (plain : ∀ p w, V p → T p .plain → I w →
      I { w with plan.typeOf := (p.id, none) :: w.plan.typeOf })
    (type : ∀ p hash w, V p → I w → Ends L (addType h t p hash) w fun _ w' => I w')
    (children : ∀ (p : Place) children w, I w →
      I { w with plan.children := (p.id, children) :: w.plan.children })
    {p : Place} (hp : V p) (hw : I w) : Ends L (visit h t q p.above p.node) w fun _ w' => I w' := by
  induction p using Place.induction generalizing w with
  | step p ih =>
    have hforest : ∀ shown w, K p shown → I w →
        Ends L (visitShown h t q (p.node :: p.above) shown p.node.children) w fun _ w' => I w' := by
      intro shown w hK hw
      refine ends_visitShown (I := fun _ => I) (fun n _ _ hn hany hw => ?_) (fun _ _ _ _ hw => hw) hw
      have hc : (⟨p.node :: p.above, n⟩ : Place) ∈ p.children := List.mem_map_of_mem hn
      exact ih _ hc (facts.child p shown _ hp hK hc hany) hw
    rw [visit_eq]
    refine Ends.bind (Ends.lift (facts.type p hp)) ?_
    rintro found w' ⟨hT, rfl⟩
    cases found with
    | plain => exact Ends.modify (plain p _ hp hT hw)
    | hash hash =>
      refine Ends.bind (type p hash _ hp hw) fun fresh w₁ hw₁ => ?_
      cases fresh with
      | false => exact Ends.pure hw₁
      | true =>
        refine Ends.bind (Ends.lift (facts.children p hp)) ?_
        rintro shown w₁ ⟨hK, rfl⟩
        refine Ends.bind (Ends.modify (P := fun _ w' => I w') (children p shown _ hw₁)) ?_
        exact fun _ w₂ hw₂ => hforest shown w₂ hK hw₂

/-! ## Enumerations -/

/-- Every hash that was noted as that of an enumeration has a record. -/
def EnumsMet (w : Walk) : Prop :=
  ∀ id hash, (id, hash) ∈ w.plan.enumOf → ∃ r ∈ w.plan.enums, r.hash = hash

/-- The enumeration of a field was noted, if the place is a field that has one. -/
def EnumNoted (w : Walk) (p : Place) : Prop :=
  ∀ f, p.node.detail = .field f → f.encoding.isSome → ∃ hash, (p.id, hash) ∈ w.plan.enumOf

/-- Where the type of a visited place was noted, so was its enumeration. -/
structure EnumsKept (V : Place → Prop) (w : Walk) : Prop where
  met : w.EnumsMet
  noted : ∀ p, V p → w.Noted p.id → w.EnumNoted p

lemma ends_addEnum_met (field : ℕ) (scope : Option String) (e : FieldEncoding) (hw : w.EnumsMet) :
    Ends L (addEnum h field scope e) w fun _ w' => w'.EnumsMet ∧
      w'.plan.typeOf = w.plan.typeOf ∧
      w'.plan.enumOf = (field, h.encodingHash e) :: w.plan.enumOf := by
  unfold addEnum change
  refine Ends.bind (Ends.modify (P := fun _ w' => w' = { w with
    plan.enumOf := (field, h.encodingHash e) :: w.plan.enumOf }) rfl) ?_
  rintro _ w₁ rfl
  refine Ends.bind (Ends.get (P := fun a w' => a = w' ∧ w' = { w with
    plan.enumOf := (field, h.encodingHash e) :: w.plan.enumOf }) ⟨rfl, rfl⟩) ?_
  rintro _ _ ⟨rfl, rfl⟩
  split
  · next hany =>
    obtain ⟨r, hr, hhash⟩ := List.any_eq_true.1 hany
    refine Ends.pure ⟨fun id hash hnoted => ?_, rfl, rfl⟩
    rcases List.mem_cons.1 hnoted with heq | hnoted
    · cases heq
      exact ⟨r, hr, eq_of_beq hhash⟩
    · exact hw id hash hnoted
  · refine Ends.bind (ends_register _) fun identifier w₂ hplan => Ends.modify ⟨?_, ?_, ?_⟩
    · intro id hash hnoted
      dsimp only at hnoted ⊢
      rw [hplan] at hnoted ⊢
      rcases List.mem_cons.1 hnoted with heq | hnoted
      · cases heq
        exact ⟨_, List.mem_append_right _ List.mem_cons_self, rfl⟩
      · obtain ⟨r, hr, hhash⟩ := hw id hash hnoted
        exact ⟨r, List.mem_append_left _ hr, hhash⟩
    · dsimp only
      rw [hplan]
    · dsimp only
      rw [hplan]

/-- What becomes of the enumerations when the type of a place is noted. -/
structure AddedEnum (p : Place) (hash : ℤ) (w w' : Walk) : Prop where
  met : w'.EnumsMet
  typeOf : w'.plan.typeOf = (p.id, some hash) :: w.plan.typeOf
  enumOf : w.plan.enumOf ⊆ w'.plan.enumOf
  noted : w'.EnumNoted p

lemma ends_addType_enum (p : Place) (hash : ℤ) (hw : w.EnumsMet) :
    Ends L (addType h t p hash) w fun _ w' => AddedEnum p hash w w' := by
  unfold addType change
  refine Ends.bind (Ends.modify (P := fun _ w' => w' = { w with
    plan.typeOf := (p.id, some hash) :: w.plan.typeOf }) rfl) ?_
  rintro _ w₁ rfl
  extract_lets decideType
  -- whether or not a record is added, nothing changes for the enumerations
  have hdecide : ∀ w₂, AddedEnum p hash w w₂ →
      Ends L (decideType ()) w₂ fun _ w' => AddedEnum p hash w w' := by
    intro w₂ h₂
    refine Ends.bind (Ends.get (P := fun a w' => w' = w₂) rfl) ?_
    rintro a _ rfl
    split
    · split
      · exact Ends.pure h₂
      · exact Ends.throw
    · refine Ends.bind (ends_register _) fun identifier w₃ h₃ => ?_
      refine Ends.bind (Ends.modify (P := fun _ w' => AddedEnum p hash w w') ?_) fun _ _ h =>
        Ends.pure h
      constructor
      · unfold EnumsMet; rw [h₃]; exact h₂.met
      · rw [h₃]; exact h₂.typeOf
      · rw [h₃]; exact h₂.enumOf
      · unfold EnumNoted; rw [h₃]; exact h₂.noted
  split
  · next e he =>
    refine Ends.bind (ends_addEnum_met _ _ e hw) fun _ w₂ h₂ => hdecide w₂ ?_
    obtain ⟨hmet, htypes, henums⟩ := h₂
    refine ⟨hmet, htypes, ?_, fun f _ _ => ⟨h.encodingHash e, ?_⟩⟩
    · rw [henums]
      exact List.subset_cons_self _ _
    · rw [henums]
      exact List.mem_cons_self
  · next hnone =>
    refine hdecide _ ⟨hw, rfl, List.Subset.refl _, fun f hf hsome => ?_⟩
    obtain ⟨e, he⟩ := Option.isSome_iff_exists.1 hsome
    have hdetail : p.node.component.detail = .field f := hf
    exact absurd (show p.node.component.detail.field?.bind (·.encoding) = some e by
      rw [hdetail]; exact he) (hnone e)

lemma AddedEnum.enumsKept {w' : Walk} {p : Place} {hash : ℤ} (hadded : AddedEnum p hash w w')
    (hsame : ∀ p', V p' → p'.id = p.id → p' = p) (hw : w.EnumsKept V) : w'.EnumsKept V := by
  refine ⟨hadded.met, fun p' hp' hnoted => ?_⟩
  obtain ⟨v, hv⟩ := hnoted
  rw [hadded.typeOf] at hv
  rcases List.mem_cons.1 hv with heq | hv
  · rw [hsame p' hp' (Prod.ext_iff.1 heq).1]
    exact hadded.noted
  · intro f hf hsome
    obtain ⟨hash, hhash⟩ := hw.noted p' hp' ⟨v, hv⟩ f hf hsome
    exact ⟨hash, hadded.enumOf hhash⟩

/-- A visit notes the enumerations of all places whose type it notes, as long as plain fields have
none. -/
theorem ends_visit_enums [LawfulMonad m] (facts : Facts L h t q root V T K)
    (hplain : ∀ p f, T p .plain → p.node.detail = .field f → f.encoding = none) {p : Place}
    (hp : V p) (hw : w.EnumsKept V) :
    Ends L (visit h t q p.above p.node) w fun _ w' => w'.EnumsKept V := by
  have hsame : ∀ p p', V p → V p' → p'.id = p.id → p' = p := fun p p' hp hp' hid =>
    Place.eq_of_id_eq facts.numbered (facts.inTree p' hp') (facts.inTree p hp) hid
  refine ends_visit_of_steps facts (fun p w hp hT hw => ?_) (fun p hash w hp hw => ?_) ?_ hp hw
  · refine ⟨hw.met, fun p' hp' hnoted f hf hsome => ?_⟩
    obtain ⟨v, hv⟩ := hnoted
    rcases List.mem_cons.1 hv with heq | hv
    · rw [hsame p p' hp hp' (Prod.ext_iff.1 heq).1] at hf
      rw [hplain p f hT hf] at hsome
      cases hsome
    · exact hw.noted p' hp' ⟨v, hv⟩ f hf hsome
  · exact Ends.imp (ends_addType_enum p hash hw.met) fun _ w' hadded =>
      hadded.enumsKept (fun p' hp' => hsame p p' hp hp') hw
  · exact fun p children w hw => ⟨hw.met, hw.noted⟩

end Walk

/-! ## Finished plans -/

/-- A plain field has no enumeration. -/
lemma Hasher.encoding_of_plain {h : Hasher} {c : Component} {f : FieldDetail}
    (hplain : h.fieldType c f = .plain) : f.encoding = none := by
  unfold fieldType at hplain
  split at hplain
  · next hlength =>
    obtain ⟨pairs, hcommon, -⟩ := h.commonItems_eq c
    rw [hcommon] at hlength
    cases hencoding : f.encoding with
    | none => rfl
    | some e => simp [fieldItems, hencoding] at hlength
  · cases hplain

namespace Screen

variable {hidden : Screen} {h : Hasher} {t : RegisterTree} {plan : Plan}

/-- Every shown place whose type is noted in a finished plan has its enumeration noted as well, with
a record. -/
lemma enumsKept_of_eq_ok (ht : t.Loaded) (hplan : hidden.plan h t = .ok plan) :
    ∃ w : Walk, w.plan = plan ∧ w.EnumsKept (· ∈ hidden.places t.top) := by
  obtain ⟨w, rfl, hrun⟩ := exists_walk_of_plan hplan
  have hplain : ∀ (p : Place) f, hidden.typeHash h t p = .ok .plain → p.node.detail = .field f →
      f.encoding = none := by
    intro p f htype hf
    rw [typeHash_field hf] at htype
    exact Hasher.encoding_of_plain (Except.ok.inj htype)
  have hbegin : Walk.EnumsKept (· ∈ hidden.places t.top) {} := by
    refine ⟨fun _ _ hnoted => ?_, fun _ _ hnoted => ?_⟩
    · cases hnoted
    · obtain ⟨_, hv⟩ := hnoted
      cases hv
  exact ⟨w, rfl, Walk.ends_visit_enums (facts ht) hplain (mem_places_self _) hbegin _ hrun⟩

/-- Finished plans are closed. -/
theorem closed_of_eq_ok (ht : t.Loaded) (hplan : hidden.plan h t = .ok plan) : plan.Closed := by
  have hplans := plans_of_eq_ok ht hplan
  have hchild : ∀ r ∈ plan.records, ∀ child ∈ plan.childrenOf r.place.id,
      child.1 ∈ hidden.places t.top ∧ ∃ v, (child.1.id, v) ∈ plan.typeOf := by
    intro r hr child hchild
    rw [hplans.children r hr] at hchild
    have hc := fst_mem_of_mem_accessors hchild
    exact ⟨visible_mem_places (hplans.records r hr).1 hc, hplans.closed r hr _ hc⟩
  refine ⟨fun r hr child hc => ?_, fun r hr child hc f hf hsome => ?_⟩
  · obtain ⟨hplace, v, hv⟩ := hchild r hr child hc
    have htype := hplans.typeHash_of_noted ht hplace hv
    cases v with
    | some v =>
      obtain ⟨r', -, htypeOf, -⟩ := hplans.typeOf?_eq ht hplace ⟨_, hv⟩ htype
      rw [htypeOf]
      exact .inl rfl
    | none =>
      refine .inr ?_
      have hlookup := lookup_eq_some_of_mem hv fun v' hv' => by
        have heq := Except.ok.inj ((hplans.typeHash_of_noted ht hplace hv').symm.trans htype)
        cases v' with
        | none => rfl
        | some v' => cases heq
      rw [Plan.isPlain, hlookup]
      rfl
  · obtain ⟨w, rfl, hkept⟩ := enumsKept_of_eq_ok ht hplan
    obtain ⟨hplace, hnoted⟩ := hchild r hr child hc
    obtain ⟨hash, hhash⟩ := hkept.noted _ hplace hnoted f hf hsome
    unfold Plan.enumOf?
    cases hlookup : w.plan.enumOf.lookup child.1.id with
    | none => exact absurd (List.lookup_eq_none_iff.1 hlookup _ hhash) (by simp)
    | some hash' =>
      obtain ⟨r', hr', heq⟩ := hkept.met _ _ (mem_of_lookup hlookup)
      change (w.plan.enums.find? (·.hash == hash')).isSome
      rw [List.find?_isSome]
      exact ⟨r', hr', beq_iff_eq.2 heq⟩

end Screen

end RegisterMap
