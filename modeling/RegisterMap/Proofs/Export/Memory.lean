import Mathlib
import RegisterMap.Proofs.Export.Names
import RegisterMap.Proofs.Export.Simulation

/-!
# The memory of an export does not matter

An export that hides nothing beyond what its configuration says remembers answers only to save work:
on a memory whose entries are right, every question is answered as by the configuration alone, and
the memory stays right whether the answer is a value or a fault.  So the order of questions never
changes a hash, a list of children or an accessor name, and the plan of an export is the plan that
is computed without any memory (`answers_plan`).
-/

namespace RegisterMap

/-! ## Answers -/

namespace Asking

variable {τ α : Type}

lemma run_get_bind (f : τ → Asking τ α) (s : τ) : (get >>= f).run s = (f s).run s := rfl

lemma run_set_bind (f : PUnit → Asking τ α) (s s' : τ) : (set s' >>= f).run s = (f ()).run s' := rfl

lemma run_modify_bind (g : τ → τ) (f : PUnit → Asking τ α) (s : τ) :
    (modify g >>= f).run s = (f ()).run (g s) := rfl

end Asking

section Answers

variable {τ α β : Type} {I : τ → Prop}

/-- On every right memory, the computation ends as another one without a memory, and leaves the
memory right. -/
def Answers (I : τ → Prop) (x : Asking τ α) (y : Except ExportFault α) : Prop :=
  ∀ s, I s → (x.run s).1 = y ∧ I (x.run s).2

lemma Answers.pure (a : α) : Answers I (Pure.pure a) (Pure.pure a) := fun _ hs => ⟨rfl, hs⟩

lemma Answers.throw (e : ExportFault) : Answers I (MonadExcept.throw e : Asking τ α) (.error e) :=
  fun _ hs => ⟨rfl, hs⟩

lemma Answers.bind {x : Asking τ α} {y : Except ExportFault α} {f : α → Asking τ β}
    {g : α → Except ExportFault β} (hx : Answers I x y)
    (hf : ∀ a, y = .ok a → Answers I (f a) (g a)) : Answers I (x >>= f) (y >>= g) := by
  intro s hs
  obtain ⟨hy, hs'⟩ := hx s hs
  rw [Asking.run_bind]
  rcases hrun : x.run s with ⟨e | a, s'⟩ <;> rw [hrun] at hy hs' <;> subst hy
  · exact ⟨rfl, hs'⟩
  · exact hf a rfl s' hs'

/-- A step that ends with a known value. -/
lemma Answers.step {x : Asking τ α} {a : α} {f : α → Asking τ β} {y : Except ExportFault β}
    (hx : Answers I x (.ok a)) (hf : Answers I (f a) y) : Answers I (x >>= f) y :=
  hx.bind (g := fun _ => y) fun _ ha => Except.ok.inj ha ▸ hf

/-- Computations whose answers are known go like those that give the answers. -/
def answering (I : τ → Prop) : Simulation (Asking τ) Unit where
  rel x y := Answers I x (y ())
  pure := Answers.pure
  throw := Answers.throw
  bind hx hf := Answers.bind hx fun a => hf a ()

end Answers

/-! ## Hidden nodes -/

section Hiding

variable {σ : Type} {h : Hiding} {t : RegisterTree} {root : Place}

/-- The answers about nodes are those of the configuration. -/
def HideState.Right (h : Hiding) (t : RegisterTree) (root : Place) (s : HideState σ) : Prop :=
  ∀ id hidden, s.answers.lookup id = some hidden →
    ∀ p ∈ root.subtree, p.id = id → h.hidesNode t p = hidden

lemma run_askNode (p : Place) (s : HideState σ) :
    (askNode h .nothing t p).run s = match s.answers.lookup p.id with
      | some previous =>
        if previous = h.hidesNode t p then (.ok (h.hidesNode t p), s)
        else (.error (.inconsistentHiding (t.path p)), s)
      | none =>
        (.ok (h.hidesNode t p), { s with answers := (p.id, h.hidesNode t p) :: s.answers }) := by
  unfold askNode
  rw [Asking.run_get_bind]
  cases h.hidesNode t p
  all_goals
    simp only [Bool.false_eq_true, if_true, if_false, HidePredicate.nothing]
    rw [Asking.run_set_bind]
    rcases s.answers.lookup p.id with _ | previous
    · rfl
    · dsimp only
      split <;> rfl

lemma answers_askNode (hroot : root.Distinct) {p : Place} (hp : p ∈ root.subtree) :
    Answers (HideState.Right h t root) (askNode h .nothing t p : Asking (HideState σ) Bool)
      (.ok (h.hidesNode t p)) := by
  intro s hs
  rw [run_askNode]
  cases hlookup : s.answers.lookup p.id with
  | some previous =>
    have hprevious : previous = h.hidesNode t p := (hs p.id previous hlookup p hp rfl).symm
    dsimp only
    rw [if_pos hprevious]
    exact ⟨rfl, hs⟩
  | none =>
    refine ⟨rfl, fun id hidden hfound p' hp' hid => ?_⟩
    rcases lookup_cons_cases hfound with ⟨heq, rfl⟩ | hfound
    · rw [hroot.eq_of_id_eq hp' hp (hid.trans heq)]
    · exact hs id hidden hfound p' hp' hid

lemma answers_askAll (hroot : root.Distinct) {ps : List Place} (hps : ps ⊆ root.subtree) :
    Answers (HideState.Right h t root) (askAll h .nothing t ps : Asking (HideState σ) Bool)
      (.ok (ps.all (h.hidesNode t))) := by
  induction ps with
  | nil => exact Answers.pure true
  | cons p rest ih =>
    rw [askAll]
    refine (answers_askNode hroot (hps List.mem_cons_self)).step ?_
    refine (ih fun q hq => hps (List.mem_cons_of_mem _ hq)).step ?_
    exact Answers.pure _

lemma answers_askHidden (hroot : root.Distinct) {p : Place} (hp : p ∈ root.subtree) :
    Answers (HideState.Right h t root) (askHidden h .nothing t p : Asking (HideState σ) Bool)
      (.ok (h.isHidden t p)) := by
  unfold askHidden Hiding.isHidden
  by_cases hsignal : p.node.kind = .signal
  · rw [if_pos hsignal]
    simp only [hsignal, beq_self_eq_true, Bool.true_or]
    exact Answers.pure true
  · rw [if_neg hsignal, beq_eq_false_iff_ne.2 hsignal, Bool.false_or]
    refine (answers_askNode hroot hp).step ?_
    cases hhides : h.hidesNode t p with
    | true => exact Answers.pure true
    | false =>
      rw [if_neg Bool.false_ne_true, Bool.false_or]
      by_cases hregister : p.node.kind = .register
      · rw [if_pos hregister, beq_iff_eq.2 hregister, Bool.true_and]
        exact answers_askAll hroot fun c hc =>
          Place.children_mem_subtree hp (List.mem_of_mem_filter hc)
      · rw [if_neg hregister, beq_eq_false_iff_ne.2 hregister, Bool.false_and]
        exact Answers.pure false

lemma answers_askVisible (hroot : root.Distinct) {ps : List Place} (hps : ps ⊆ root.subtree) :
    Answers (HideState.Right h t root) (askVisible h .nothing t ps : Asking (HideState σ) _)
      (.ok (ps.filter fun c => !h.isHidden t c)) := by
  induction ps with
  | nil => exact Answers.pure []
  | cons p rest ih =>
    rw [askVisible]
    refine (answers_askHidden hroot (hps List.mem_cons_self)).step ?_
    refine (ih fun q hq => hps (List.mem_cons_of_mem _ hq)).step ?_
    rw [List.filter_cons]
    cases h.isHidden t p <;> exact Answers.pure _

end Hiding

/-! ## Shown children and hashes -/

lemma Hiding.map_fst_accessors (hide : Hiding) (t : RegisterTree) (p : Place) :
    (hide.accessors t p).map Prod.fst = hide.visibleChildren t p :=
  map_fst_zip_accessorNames _ _

section Exports

variable {σ : Type} {hide : Hiding} {t : RegisterTree} {h : Hasher} {root : Place}

/-- Everything that is remembered is what the configuration alone says. -/
structure ExportMemory.Right (h : Hasher) (hide : Hiding) (t : RegisterTree) (root : Place)
    (memory : ExportMemory σ) : Prop where
  answers : memory.hide.Right hide t root
  types : ∀ id type, memory.types.lookup id = some type →
    ∀ p ∈ root.subtree, p.id = id → p.typeHash h hide t = .ok type
  accessors : ∀ id children, memory.accessors.lookup id = some children →
    ∀ p ∈ root.subtree, p.id = id → children = hide.accessors t p

lemma ExportMemory.right_empty (s : σ) : (ExportMemory.empty s).Right h hide t root where
  answers _ _ hlookup := nomatch hlookup
  types _ _ hlookup := nomatch hlookup
  accessors _ _ hlookup := nomatch hlookup

lemma answers_asking {α : Type} {x : Asking (HideState σ) α} {y : Except ExportFault α}
    (hx : Answers (HideState.Right hide t root) x y) :
    Answers (ExportMemory.Right h hide t root) (Export.asking x) y := by
  intro s hs
  obtain ⟨hy, hright⟩ := hx s.hide hs.answers
  exact ⟨hy, hright, hs.types, hs.accessors⟩

/-- The shown children of a node are those that the configuration shows. -/
theorem answers_children (hroot : root.Distinct) {p : Place} (hp : p ∈ root.subtree) :
    Answers (ExportMemory.Right h hide t root)
      (Export.children ⟨t, hide, .nothing, h⟩ p : Exporting σ Accessors)
      (.ok (hide.accessors t p)) := by
  have hchildren : p.children ⊆ root.subtree := fun c hc => Place.children_mem_subtree hp hc
  intro s hs
  unfold Export.children
  rw [Asking.run_get_bind]
  cases hlookup : s.accessors.lookup p.id with
  | some known =>
    have hknown := hs.accessors p.id known hlookup p hp rfl
    have hsub : known.map Prod.fst ⊆ root.subtree := by
      rw [hknown, hide.map_fst_accessors]
      exact fun c hc => hchildren (List.mem_of_mem_filter hc)
    rw [← hknown]
    exact (answers_asking (answers_askVisible hroot hsub)).step (Answers.pure known) s hs
  | none =>
    refine (answers_asking (answers_askVisible hroot hchildren)).step ?_ s hs
    intro s' hs'
    rw [Asking.run_modify_bind]
    refine ⟨rfl, hs'.answers, hs'.types, fun id children hfound p' hp' hid => ?_⟩
    rcases lookup_cons_cases hfound with ⟨heq, rfl⟩ | hfound
    · rw [hroot.eq_of_id_eq hp' hp (hid.trans heq)]
      rfl
    · exact hs'.accessors id children hfound p' hp' hid

lemma plain_typeHash (p : Place) :
    p.typeHash h hide t = shapeOf h t (hide.queries t) p := by
  rw [Place.typeHash, typeHash_eq]
  exact bind_pure (shapeOf h t (hide.queries t) p)

/-- The type hash of a node is the one that is computed without a memory. -/
theorem answers_typeHash (hroot : root.Distinct) {p : Place} (hp : p ∈ root.subtree) :
    Answers (ExportMemory.Right h hide t root)
      (Export.typeHash ⟨t, hide, .nothing, h⟩ p : Exporting σ TypeHash) (p.typeHash h hide t) := by
  induction p using Place.induction with
  | step p ih =>
    have hshape : Answers (ExportMemory.Right h hide t root)
        (shapeOf h t (Export.queries ⟨t, hide, .nothing, h⟩) p : Exporting σ TypeHash)
        (shapeOf h t (hide.queries t) p) :=
      (answering _).rel_shapeOf (u := fun _ => hide.queries t) (answers_children hroot hp)
        fun c hc => ih c hc (Place.children_mem_subtree hp hc)
    intro s hs
    unfold Export.typeHash
    have hknown : ((Export.queries ⟨t, hide, .nothing, h⟩ : ShapeQueries (Exporting σ)).known
        p.id).run s = (.ok (s.types.lookup p.id), s) := rfl
    rw [typeHash_eq, Asking.run_bind, hknown]
    dsimp only
    cases hlookup : s.types.lookup p.id with
    | some known => exact ⟨(hs.types p.id known hlookup p hp rfl).symm, hs⟩
    | none =>
      have hcomputed : Answers (ExportMemory.Right h hide t root)
          (do
            let computed ← shapeOf h t (Export.queries ⟨t, hide, .nothing, h⟩) p
            (Export.queries ⟨t, hide, .nothing, h⟩).remember p.id computed
            pure computed : Exporting σ TypeHash)
          (shapeOf h t (hide.queries t) p >>= fun computed => .ok computed) := by
        refine hshape.bind fun computed hok => ?_
        intro s' hs'
        refine ⟨rfl, hs'.answers, fun id type hfound p' hp' hid => ?_, hs'.accessors⟩
        rcases lookup_cons_cases hfound with ⟨heq, rfl⟩ | hfound
        · rw [hroot.eq_of_id_eq hp' hp (hid.trans heq), plain_typeHash, hok]
        · exact hs'.types id type hfound p' hp' hid
      have hbind : (shapeOf h t (hide.queries t) p >>= fun computed => .ok computed) =
          p.typeHash h hide t := by
        rw [plain_typeHash]
        exact bind_pure _
      rw [← hbind]
      exact hcomputed s hs

end Exports

/-! ## The plan -/

/-- The plan of an export, computed without any memory. -/
def Hiding.plan (hide : Hiding) (h : Hasher) (t : RegisterTree) : Except ExportFault Plan :=
  if hide.isHidden t t.top then .error (.topHidden (t.path t.top))
  else Walk.planned h t (hide.queries t)

variable {σ : Type} {hide : Hiding} {t : RegisterTree} {h : Hasher}

/-- An export that hides nothing beyond what its configuration says plans as without a memory. -/
theorem answers_plan (ht : t.top.Distinct) :
    Answers (ExportMemory.Right h hide t t.top)
      (Export.plan ⟨t, hide, .nothing, h⟩ : Exporting σ Plan) (hide.plan h t) := by
  have htop := t.top.mem_subtree_self
  have hhidden : Answers (ExportMemory.Right h hide t t.top)
      (Export.isHidden ⟨t, hide, .nothing, h⟩ t.top : Exporting σ Bool)
      (.ok (hide.isHidden t t.top)) :=
    answers_asking (answers_askHidden ht htop)
  unfold Export.plan Hiding.plan
  refine hhidden.step ?_
  cases hide.isHidden t t.top with
  | true => exact Answers.throw _
  | false =>
    exact Simulation.rel_planned (S := answering _) (u := fun _ => hide.queries t)
      (fun p hp => answers_children ht hp) fun p hp => answers_typeHash ht hp

/-- The plan of a fresh export is the one that is computed without a memory. -/
theorem plan_run_empty (ht : t.top.Distinct) (s : σ) :
    ((Export.plan ⟨t, hide, .nothing, h⟩).run (.empty s)).1 = hide.plan h t :=
  (answers_plan ht _ (ExportMemory.right_empty s)).1

end RegisterMap
