import Mathlib
import RegisterMap.Proofs.Export.Outcomes

/-!
# Exports that go alike

The hashes and the plan are computed by code that is written over the questions it asks about the
tree.  When two ways to answer the questions go alike, so do the hashes and the plans that are
computed with them.  What "alike" means is a `Simulation`: a relation that goes along with `do`
between computations that may have a memory, and computations without one.  The latter are families,
with one member for each way in which the answers may turn out.

Only the remembered hashes are left to the user: a computation without a memory knows none, so how a
known hash is related to a computed one depends on the memory.
-/

namespace RegisterMap

/-- A way in which computations go like the members of a family of computations without a memory. -/
structure Simulation (m : Type → Type) (ι : Type) [Monad m] [MonadExceptOf ExportFault m] where
  /-- The computation goes like the members of the family. -/
  rel : {α : Type} → m α → (ι → Except ExportFault α) → Prop
  pure : ∀ {α : Type} (a : α), rel (Pure.pure a) fun _ => Pure.pure a
  throw : ∀ {α : Type} (e : ExportFault),
    rel (MonadExcept.throw e : m α) fun _ => MonadExcept.throw e
  bind : ∀ {α β : Type} {x : m α} {y : ι → Except ExportFault α} {f : α → m β}
    {g : ι → α → Except ExportFault β},
    rel x y → (∀ a i, y i = .ok a → rel (f a) fun i => g i a) → rel (x >>= f) fun i => y i >>= g i

namespace Simulation

variable {m : Type → Type} {ι : Type} [Monad m] [MonadExceptOf ExportFault m]
  (S : Simulation m ι) {α β : Type} {h : Hasher} {t : RegisterTree} {q : ShapeQueries m}
  {u : ι → ShapeQueries (Except ExportFault)} {root p : Place}

/-- Items that are computed one after the other. -/
lemma mapM [LawfulMonad m] {κ : Type} {f : κ → m α} {g : ι → κ → Except ExportFault α} {l : List κ}
    (h : ∀ k ∈ l, S.rel (f k) fun i => g i k) : S.rel (l.mapM f) fun i => l.mapM (g i) := by
  induction l with
  | nil => exact S.pure []
  | cons k rest ih =>
    simp only [List.mapM_cons]
    refine S.bind (h k List.mem_cons_self) fun a _ _ => ?_
    exact S.bind (ih fun j hj => h j (List.mem_cons_of_mem _ hj)) fun as _ _ => S.pure _

/-! ## Hashes -/

/-- The type hashes of a place go alike. -/
def RelType (h : Hasher) (t : RegisterTree) (q : ShapeQueries m)
    (u : ι → ShapeQueries (Except ExportFault)) (p : Place) : Prop :=
  S.rel (typeHash h t q p.above p.node) fun i => typeHash h t (u i) p.above p.node

lemma rel_contributionOf {inRegister : Bool} {accessor : String} (htype : S.RelType h t q u p) :
    S.rel (contributionOf h t q inRegister p accessor) fun i =>
      contributionOf h t (u i) inRegister p accessor := by
  unfold contributionOf
  cases inRegister with
  | true =>
    simp only [if_true]
    cases p.node.detail with
    | field f => exact S.bind htype fun type _ _ => S.pure _
    | _ => exact S.throw _
  | false => exact S.bind htype fun type _ _ => S.pure _

/-- Where the shown children are known alike, and their hashes go alike, so does the hash of the
whole, as far as it is not remembered. -/
theorem rel_shapeOf [LawfulMonad m] (hchildren : S.rel (q.children p) fun i => (u i).children p)
    (htypes : ∀ c ∈ p.children, S.RelType h t q u c) :
    S.rel (shapeOf h t q p) fun i => shapeOf h t (u i) p := by
  have hcontributions : ∀ (inRegister : Bool) (children : Accessors) (cs : List Node),
      cs ⊆ p.node.children →
      S.rel (contributions h t q (p.node :: p.above) inRegister children cs) fun i =>
        contributions h t (u i) (p.node :: p.above) inRegister children cs := by
    intro inRegister children cs
    induction cs with
    | nil => intro _; exact S.pure []
    | cons n rest ih =>
      intro hsub
      have hrest := ih fun k hk => hsub (List.mem_cons_of_mem _ hk)
      have hn : (⟨p.node :: p.above, n⟩ : Place) ∈ p.children :=
        List.mem_map_of_mem (hsub List.mem_cons_self)
      simp only [contributions_cons]
      cases children.find? fun child => child.1.id == n.id with
      | none => exact hrest
      | some child =>
        refine S.bind (S.rel_contributionOf (htypes _ hn)) fun item _ _ => ?_
        exact S.bind hrest fun items _ _ => S.pure _
  unfold shapeOf
  split
  · exact S.throw _
  · exact S.pure _
  · refine S.bind hchildren fun children _ _ => ?_
    exact S.bind (hcontributions _ _ _ (List.Subset.refl _)) fun items _ _ => S.pure _

/-! ## Walks -/

/-- Steps of the walk that go alike from every state. -/
def WalkRel (x : Walking m α) (y : ι → Walking (Except ExportFault) α) : Prop :=
  ∀ w, S.rel (x.run w) fun i => (y i).run w

variable {S} {x : Walking m α} {y : ι → Walking (Except ExportFault) α}

lemma WalkRel.pure (a : α) : S.WalkRel (Pure.pure a) fun _ => Pure.pure a := fun w => S.pure (a, w)

lemma WalkRel.throw (e : ExportFault) :
    S.WalkRel (MonadExcept.throw e : Walking m α) fun _ => MonadExcept.throw e :=
  fun w => S.bind (g := fun _ a => Pure.pure (a, w)) (S.throw e) fun a _ _ => S.pure (a, w)

lemma WalkRel.get : S.WalkRel (MonadState.get : Walking m Walk) fun _ => MonadState.get :=
  fun w => S.pure (w, w)

lemma WalkRel.modify (f : Walk → Walk) :
    S.WalkRel (modify f : Walking m PUnit) fun _ => modify f :=
  fun w => S.pure ((), f w)

lemma WalkRel.bind {f : α → Walking m β} {g : ι → α → Walking (Except ExportFault) β}
    (hx : S.WalkRel x y) (hf : ∀ a, S.WalkRel (f a) fun i => g i a) :
    S.WalkRel (x >>= f) fun i => y i >>= g i := by
  intro w
  simp only [StateT.run_bind]
  exact S.bind (g := fun i r => (g i r.1).run r.2) (hx w) fun r _ _ => hf r.1 r.2

lemma WalkRel.lift {z : m α} {z' : ι → Except ExportFault α} (hz : S.rel z z') :
    S.WalkRel (liftM z : Walking m α) fun i => liftM (z' i) :=
  fun w => S.bind (g := fun _ a => Pure.pure (a, w)) hz fun a _ _ => S.pure (a, w)

lemma walkRel_register (name : String) :
    S.WalkRel (Walk.register name : Walking m String) fun _ => Walk.register name := by
  unfold Walk.register
  refine WalkRel.bind WalkRel.get fun w => ?_
  cases w.identifiers.register name with
  | error e => exact WalkRel.throw e
  | ok r => exact WalkRel.bind (WalkRel.modify _) fun _ => WalkRel.pure _

lemma walkRel_addEnum (h : Hasher) (field : ℕ) (scope : Option String) (e : FieldEncoding) :
    S.WalkRel (Walk.addEnum h field scope e : Walking m Unit) fun _ =>
      Walk.addEnum h field scope e := by
  unfold Walk.addEnum Walk.change
  refine WalkRel.bind (WalkRel.modify _) fun _ => ?_
  refine WalkRel.bind WalkRel.get fun w => ?_
  split
  · exact WalkRel.pure _
  · exact WalkRel.bind (walkRel_register _) fun _ => WalkRel.modify _

lemma walkRel_addType (h : Hasher) (t : RegisterTree) (p : Place) (hash : ℤ) :
    S.WalkRel (Walk.addType h t p hash : Walking m Bool) fun _ => Walk.addType h t p hash := by
  unfold Walk.addType Walk.change
  refine WalkRel.bind (WalkRel.modify _) fun _ => ?_
  extract_lets decideType decideType'
  have hdecide : S.WalkRel (decideType ()) fun _ => decideType' () := by
    refine WalkRel.bind WalkRel.get fun w => ?_
    cases w.plan.record? hash with
    | none =>
      refine WalkRel.bind (walkRel_register _) fun _ => ?_
      exact WalkRel.bind (WalkRel.modify _) fun _ => WalkRel.pure _
    | some existing =>
      dsimp only
      split
      · exact WalkRel.pure _
      · exact WalkRel.throw _
  split
  · exact WalkRel.bind (walkRel_addEnum _ _ _ _) fun _ => hdecide
  · exact hdecide

/-- Where the shown children and the hashes of all places of a tree go alike, so do the walks. -/
theorem walkRel_visit (hchildren : ∀ p ∈ root.subtree, S.rel (q.children p) fun i => (u i).children p)
    (htypes : ∀ p ∈ root.subtree, S.RelType h t q u p) (hp : p ∈ root.subtree) :
    S.WalkRel (Walk.visit h t q p.above p.node) fun i => Walk.visit h t (u i) p.above p.node := by
  induction p using Place.induction with
  | step p ih =>
    have hforest : ∀ (children : Accessors) (cs : List Node), cs ⊆ p.node.children →
        S.WalkRel (Walk.visitShown h t q (p.node :: p.above) children cs) fun i =>
          Walk.visitShown h t (u i) (p.node :: p.above) children cs := by
      intro children cs
      induction cs with
      | nil => intro _; exact WalkRel.pure ()
      | cons n rest ihrest =>
        intro hsub
        have hrest := ihrest fun k hk => hsub (List.mem_cons_of_mem _ hk)
        have hn : (⟨p.node :: p.above, n⟩ : Place) ∈ p.children :=
          List.mem_map_of_mem (hsub List.mem_cons_self)
        have hhead := ih _ hn (Place.children_mem_subtree hp hn)
        simp only [Walk.visitShown_cons]
        split
        · exact WalkRel.bind hhead fun _ => hrest
        · exact hrest
    simp only [Walk.visit_eq]
    refine WalkRel.bind (WalkRel.lift (htypes p hp)) fun type => ?_
    cases type with
    | plain => exact WalkRel.modify _
    | hash hash =>
      refine WalkRel.bind (walkRel_addType _ _ _ _) fun fresh => ?_
      cases fresh with
      | false => exact WalkRel.pure ()
      | true =>
        refine WalkRel.bind (WalkRel.lift (hchildren p hp)) fun children => ?_
        exact WalkRel.bind (WalkRel.modify _) fun _ =>
          hforest children p.node.children (List.Subset.refl _)

/-- Where the shown children and the hashes go alike, so do the plans. -/
theorem rel_planned
    (hchildren : ∀ p ∈ t.top.subtree, S.rel (q.children p) fun i => (u i).children p)
    (htypes : ∀ p ∈ t.top.subtree, S.RelType h t q u p) :
    S.rel (Walk.planned h t q) fun i => Walk.planned h t (u i) := by
  unfold Walk.planned
  exact S.bind (walkRel_visit hchildren htypes t.top.mem_subtree_self {}) fun r _ _ => S.pure _

end Simulation

end RegisterMap
