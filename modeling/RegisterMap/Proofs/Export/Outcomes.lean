import Mathlib
import RegisterMap.Export.Plan
import RegisterMap.Proofs.Export.Recursion
import RegisterMap.Proofs.Tree.Order

/-!
# What an export ends with

The hashes and the plan are computed by code that is written over the questions it asks about the
tree, in any monad that can fail.  A property of what such a computation ends with is therefore
proved once, for every `Outcomes`: a reading of "if it ends, then with such a value" that goes along
with `do`.  Two readings matter.  In `Outcomes.plain` there is no memory; in `Outcomes.under` the
computation runs on a memory and keeps an invariant of it, whether it fails or not.

`Walk.Ends` is the same for a step of the walk, which also changes the plan.
-/

namespace RegisterMap

/-! ## Notes by number -/

/-- What is found under a number stands in the list. -/
lemma mem_of_lookup {α : Type} {l : List (ℕ × α)} {id : ℕ} {a : α} (h : l.lookup id = some a) :
    (id, a) ∈ l := by
  obtain ⟨l₁, l₂, rfl, -⟩ := List.lookup_eq_some_iff.1 h
  simp

/-- What is found after one more note is that note, or was found before. -/
lemma lookup_cons_cases {α : Type} {l : List (ℕ × α)} {id k : ℕ} {a b : α}
    (h : ((k, b) :: l).lookup id = some a) : id = k ∧ b = a ∨ l.lookup id = some a := by
  by_cases heq : id = k
  · rw [heq, List.lookup_cons_self] at h
    exact .inl ⟨heq, Option.some.inj h⟩
  · rw [List.lookup_cons, beq_eq_false_iff_ne.2 heq] at h
    exact .inr h

/-! ## Readings -/

/-- One computation after another on a memory; a failure ends the whole and keeps the memory. -/
lemma Asking.run_bind {τ α β : Type} (x : Asking τ α) (f : α → Asking τ β) (s : τ) :
    (x >>= f).run s = match x.run s with
      | (.ok a, s') => (f a).run s'
      | (.error e, s') => (.error e, s') := by
  have hrun : (x >>= f).run s = ExceptT.bindCont f (x.run s).1 (x.run s).2 := rfl
  rw [hrun]
  rcases x.run s with ⟨_ | a, s'⟩ <;> rfl

/-- A reading of "if the computation ends, then with such a value". -/
structure Outcomes (m : Type → Type) [Monad m] [MonadExceptOf ExportFault m] where
  /-- If the computation ends, then with a value that satisfies the property. -/
  holds : {α : Type} → m α → (α → Prop) → Prop
  pure : ∀ {α : Type} {a : α} {P : α → Prop}, P a → holds (Pure.pure a) P
  bind : ∀ {α β : Type} {x : m α} {f : α → m β} {P : α → Prop} {Q : β → Prop},
    holds x P → (∀ a, P a → holds (f a) Q) → holds (x >>= f) Q
  throw : ∀ {α : Type} {e : ExportFault} {P : α → Prop}, holds (MonadExcept.throw e : m α) P

namespace Outcomes

/-- The reading for computations without a memory. -/
def plain : Outcomes (Except ExportFault) where
  holds x P := ∀ a, x = .ok a → P a
  pure h := fun _ ha => Except.ok.inj ha ▸ h
  bind {α β x f P Q} hx hf := fun b hb => by
    cases x with
    | error e => cases hb
    | ok a => exact hf a (hx a rfl) b hb
  throw := fun _ ha => nomatch ha

variable {τ : Type}

/-- The reading for computations on a memory of which an invariant is kept. -/
def under (I : τ → Prop) : Outcomes (Asking τ) where
  holds x P := ∀ s, I s → I (x.run s).2 ∧ ∀ a, (x.run s).1 = .ok a → P a
  pure h := fun _ hs => ⟨hs, fun _ ha => Except.ok.inj ha ▸ h⟩
  bind {α β x f P Q} hx hf := fun s hs => by
    obtain ⟨hs', hP⟩ := hx s hs
    rw [Asking.run_bind]
    rcases hx' : x.run s with ⟨e | a, s'⟩
    · rw [hx'] at hs'
      exact ⟨hs', fun b hb => nomatch hb⟩
    · rw [hx'] at hs' hP
      exact hf a (hP a rfl) s' hs'
  throw := fun _ hs => ⟨hs, fun _ ha => nomatch ha⟩

variable {m : Type → Type} [Monad m] [MonadExceptOf ExportFault m] [LawfulMonad m] (L : Outcomes m)
  {α β : Type}

lemma imp {x : m α} {P Q : α → Prop} (hx : L.holds x P) (h : ∀ a, P a → Q a) : L.holds x Q := by
  rw [← bind_pure x]
  exact L.bind hx fun a ha => L.pure (h a ha)

/-! ## Hashes -/

/-- Whatever the questions keep is kept by the computation of a hash. -/
theorem holds_typeHash {h : Hasher} {t : RegisterTree} {q : ShapeQueries m} {r : Place}
    (hchildren : ∀ p ∈ r.subtree, L.holds (q.children p) fun _ => True)
    (hknown : ∀ id, L.holds (q.known id) fun _ => True)
    (hremember : ∀ id type, L.holds (q.remember id type) fun _ => True) {p : Place}
    (hp : p ∈ r.subtree) : L.holds (typeHash h t q p.above p.node) fun _ => True := by
  induction p using Place.induction with
  | step p ih =>
    have hitem : ∀ inRegister accessor, ∀ c ∈ p.children,
        L.holds (contributionOf h t q inRegister c accessor) fun _ => True := by
      intro inRegister accessor c hc
      have htype := ih c hc (Place.children_mem_subtree hp hc)
      unfold contributionOf
      split
      · split
        · exact L.bind htype fun _ _ => L.pure trivial
        · exact L.throw
      · exact L.bind htype fun _ _ => L.pure trivial
    have hitems : ∀ inRegister children (cs : List Node), cs ⊆ p.node.children →
        L.holds (contributions h t q (p.node :: p.above) inRegister children cs) fun _ => True := by
      intro inRegister children cs
      induction cs with
      | nil => intro _; exact L.pure trivial
      | cons n rest ihrest =>
        intro hsub
        have hrest := ihrest fun k hk => hsub (List.mem_cons_of_mem _ hk)
        rw [contributions_cons]
        split
        · exact hrest
        · refine L.bind (hitem _ _ _ (List.mem_map_of_mem (hsub List.mem_cons_self))) fun _ _ => ?_
          exact L.bind hrest fun _ _ => L.pure trivial
    have hshape : L.holds (shapeOf h t q p) fun _ => True := by
      unfold shapeOf
      split
      · exact L.throw
      · exact L.pure trivial
      · refine L.bind (hchildren p hp) fun children _ => ?_
        exact L.bind (hitems _ _ _ (List.Subset.refl _)) fun _ _ => L.pure trivial
    rw [typeHash_eq]
    refine L.bind (hknown p.id) fun known _ => ?_
    cases known with
    | some known => exact L.pure trivial
    | none =>
      refine L.bind hshape fun computed _ => ?_
      exact L.bind (hremember p.id computed) fun _ _ => L.pure trivial

end Outcomes

/-! ## Steps of the walk -/

namespace Walk

variable {m : Type → Type} [Monad m] [MonadExceptOf ExportFault m] {α β : Type}

/-- If the step ends, then with such a value and such a state of the walk. -/
def Ends (L : Outcomes m) (x : Walking m α) (w : Walk) (P : α → Walk → Prop) : Prop :=
  L.holds (x.run w) fun r => P r.1 r.2

variable {L : Outcomes m} {w : Walk} {x : Walking m α} {f : α → Walking m β}
  {P : α → Walk → Prop} {Q : β → Walk → Prop}

lemma Ends.pure {a : α} (h : P a w) : Ends L (Pure.pure a) w P := by
  unfold Ends
  rw [StateT.run_pure]
  exact L.pure h

lemma Ends.bind (hx : Ends L x w P) (hf : ∀ a w', P a w' → Ends L (f a) w' Q) :
    Ends L (x >>= f) w Q := by
  unfold Ends
  rw [StateT.run_bind]
  exact L.bind hx fun r hr => hf r.1 r.2 hr

lemma Ends.throw {e : ExportFault} : Ends L (MonadExcept.throw e : Walking m α) w P :=
  L.bind (P := fun _ : α => False) L.throw fun _ h => h.elim

lemma Ends.lift {x : m α} {R : α → Prop} (hx : L.holds x R) :
    Ends L (liftM x : Walking m α) w fun a w' => R a ∧ w' = w :=
  L.bind hx fun _ ha => L.pure ⟨ha, rfl⟩

lemma Ends.get {P : Walk → Walk → Prop} (h : P w w) :
    Ends L (MonadState.get : Walking m Walk) w P :=
  L.pure h

lemma Ends.modify {g : Walk → Walk} {P : PUnit → Walk → Prop} (h : P () (g w)) :
    Ends L (modify g : Walking m PUnit) w P :=
  L.pure h

lemma Ends.imp [LawfulMonad m] {P' : α → Walk → Prop} (hx : Ends L x w P)
    (h : ∀ a w', P a w' → P' a w') : Ends L x w P' :=
  L.imp hx fun r hr => h r.1 r.2 hr

end Walk

end RegisterMap
