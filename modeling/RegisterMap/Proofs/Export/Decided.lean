import Mathlib
import RegisterMap.Proofs.Export.RegisterHash
import RegisterMap.Proofs.Export.Screen
import RegisterMap.Proofs.Export.Simulation

/-!
# What an export answers is decided by the answers about single nodes

A caller may hide nodes with any predicate, even with one that changes its mind.  An export notes
what it is told of each node and ends with a fault when it is told something else later, so the
notes only grow, and they are a decision on what is hidden: the `screen` of the memory.  Whenever an
export answers a question, with any predicate and after any other questions, the answer is the one
that this decision gives without any memory (`settles_children`, `settles_typeHash`,
`settles_plan`), and no later question changes that.
-/

namespace RegisterMap

/-! ## Noted answers -/

/-- The answers about single nodes, by their numbers. -/
abbrev HideAnswers := List (ℕ × Bool)

namespace HideAnswers

/-- Every answer stays what it is in the later answers. -/
def Stays (answers later : HideAnswers) : Prop :=
  ∀ id hidden, answers.lookup id = some hidden → later.lookup id = some hidden

/-- The node itself was told to be hidden. -/
def tells (answers : HideAnswers) (p : Place) : Bool := (answers.lookup p.id).getD false

/-- What is hidden by these answers: signals, nodes that were told to be, and registers of which
every field was. -/
def screen (answers : HideAnswers) : Screen := fun p =>
  p.node.kind == .signal || answers.tells p ||
    (p.node.kind == .register &&
      (p.children.filter fun c => c.node.kind == .field).all answers.tells)

variable {answers later : HideAnswers}

lemma Stays.refl (answers : HideAnswers) : answers.Stays answers := fun _ _ h => h

lemma Stays.trans {latest : HideAnswers} (h : answers.Stays later) (h' : later.Stays latest) :
    answers.Stays latest :=
  fun id hidden hlookup => h' id hidden (h id hidden hlookup)

lemma tells_of_lookup {p : Place} {hidden : Bool} (h : answers.lookup p.id = some hidden) :
    answers.tells p = hidden := by
  rw [tells, h, Option.getD_some]

lemma stays_cons {id : ℕ} {hidden : Bool} (hnone : answers.lookup id = none) :
    answers.Stays ((id, hidden) :: answers) := by
  intro k told hlookup
  have hne : k ≠ id := by
    rintro rfl
    rw [hnone] at hlookup
    cases hlookup
  rw [List.lookup_cons, beq_eq_false_iff_ne.2 hne]
  exact hlookup

end HideAnswers

/-! ## Computations that are decided by noted answers -/

section Settles

variable {τ α β : Type} {told : τ → HideAnswers} {I : τ → Prop}

/-- From a sound memory the computation gets to a sound one, in which no noted answer is different;
if it ends with a value, then all later answers give the same value without a memory. -/
def Settles (told : τ → HideAnswers) (I : τ → Prop) (x : Asking τ α)
    (y : HideAnswers → Except ExportFault α) : Prop :=
  ∀ s, I s → I (x.run s).2 ∧ (told s).Stays (told (x.run s).2) ∧
    ∀ a, (x.run s).1 = .ok a → ∀ later, (told (x.run s).2).Stays later → y later = .ok a

lemma Settles.pure (a : α) : Settles told I (Pure.pure a) fun _ => Pure.pure a :=
  fun _ hs => ⟨hs, HideAnswers.Stays.refl _, fun _ ha _ _ => ha⟩

lemma Settles.throw (e : ExportFault) {y : HideAnswers → Except ExportFault α} :
    Settles told I (MonadExcept.throw e : Asking τ α) y :=
  fun _ hs => ⟨hs, HideAnswers.Stays.refl _, fun _ ha => by cases ha⟩

lemma Settles.bind {x : Asking τ α} {y : HideAnswers → Except ExportFault α}
    {f : α → Asking τ β} {g : HideAnswers → α → Except ExportFault β} (hx : Settles told I x y)
    (hf : ∀ a later, y later = .ok a → Settles told I (f a) fun later => g later a) :
    Settles told I (x >>= f) fun later => y later >>= g later := by
  intro s hs
  obtain ⟨hs', hstays, hvalue⟩ := hx s hs
  rw [Asking.run_bind]
  rcases hrun : x.run s with ⟨e | a, s'⟩ <;> rw [hrun] at hs' hstays hvalue
  · exact ⟨hs', hstays, fun _ hb => by cases hb⟩
  · have ha : y (told s') = .ok a := hvalue a rfl _ (HideAnswers.Stays.refl _)
    obtain ⟨hs'', hstays', hvalue'⟩ := hf a _ ha s' hs'
    refine ⟨hs'', hstays.trans hstays', fun b hb later hlater => ?_⟩
    have ha : y later = .ok a := hvalue a rfl later (hstays'.trans hlater)
    change (y later >>= g later) = .ok b
    rw [ha]
    exact hvalue' b hb later hlater

/-- The value that the computation ends with is the one that the answers give, then and later. -/
lemma Settles.eq_ok {x : Asking τ α} {y : HideAnswers → Except ExportFault α}
    (hx : Settles told I x y) {s s' : τ} {a : α} (hs : I s) (hrun : x.run s = (.ok a, s'))
    {later : HideAnswers} (hlater : (told s').Stays later) : y later = .ok a := by
  obtain ⟨-, -, hvalue⟩ := hx s hs
  rw [hrun] at hvalue
  exact hvalue a rfl later hlater

/-- A step whose value can be told from the answers. -/
lemma Settles.step {x : Asking τ α} {v : HideAnswers → α} {f : α → Asking τ β}
    {g : HideAnswers → α → Except ExportFault β} (hx : Settles told I x fun later => .ok (v later))
    (hf : ∀ a, Settles told I (f a) fun later => g later a) :
    Settles told I (x >>= f) fun later => g later (v later) :=
  Settles.bind hx fun a _ _ => hf a

/-- Computations that are settled go like those that the later answers decide. -/
def settling (told : τ → HideAnswers) (I : τ → Prop) : Simulation (Asking τ) HideAnswers where
  rel := Settles told I
  pure := Settles.pure
  throw e := Settles.throw e
  bind := Settles.bind

end Settles

/-! ## Hidden nodes -/

section Hiding

variable {σ : Type} {h : Hiding} {predicate : HidePredicate σ} {t : RegisterTree}

/-- The decision by what is noted of single nodes. -/
abbrev HideState.Decides {α : Type} (x : Asking (HideState σ) α) (y : HideAnswers → α) : Prop :=
  Settles HideState.answers (fun _ => True) x fun later => .ok (y later)

lemma decides_askNode (p : Place) :
    HideState.Decides (askNode h predicate t p) fun later => later.tells p := by
  intro s _
  unfold askNode
  rw [Asking.run_get_bind]
  dsimp only
  generalize (if h.hidesNode t p = true then (true, s.predicate)
    else predicate p s.predicate) = answer
  obtain ⟨hidden, state⟩ := answer
  dsimp only
  rw [Asking.run_set_bind]
  cases hlookup : s.answers.lookup p.id with
  | none =>
    refine ⟨trivial, HideAnswers.stays_cons hlookup, fun a ha later hlater => ?_⟩
    cases ha
    exact congrArg _ (HideAnswers.tells_of_lookup (hlater p.id hidden List.lookup_cons_self))
  | some previous =>
    dsimp only
    by_cases hsame : previous = hidden
    · rw [if_pos hsame]
      refine ⟨trivial, HideAnswers.Stays.refl _, fun a ha later hlater => ?_⟩
      cases ha
      exact congrArg _ (HideAnswers.tells_of_lookup (hlater p.id hidden (hsame ▸ hlookup)))
    · rw [if_neg hsame]
      exact ⟨trivial, HideAnswers.Stays.refl _, fun a ha => nomatch ha⟩

lemma decides_askAll (ps : List Place) :
    HideState.Decides (askAll h predicate t ps) fun later => ps.all later.tells := by
  induction ps with
  | nil => exact Settles.pure true
  | cons p rest ih =>
    rw [askAll]
    refine Settles.step (g := fun later hidden => .ok (hidden && rest.all later.tells))
      (decides_askNode p) fun hidden => ?_
    exact Settles.step (g := fun _ others => .ok (hidden && others)) ih fun _ => Settles.pure _

lemma decides_askHidden (p : Place) :
    HideState.Decides (askHidden h predicate t p) fun later => later.screen p := by
  unfold askHidden HideAnswers.screen
  by_cases hsignal : p.node.kind = .signal
  · rw [if_pos hsignal]
    simp only [hsignal, beq_self_eq_true, Bool.true_or]
    exact Settles.pure true
  · rw [if_neg hsignal]
    simp only [beq_eq_false_iff_ne.2 hsignal, Bool.false_or]
    refine Settles.step (g := fun later told => .ok (told || (p.node.kind == .register &&
      (p.children.filter fun c => c.node.kind == .field).all later.tells)))
      (decides_askNode p) fun told => ?_
    cases told with
    | true => exact Settles.pure true
    | false =>
      simp only [Bool.false_eq_true, if_false, Bool.false_or]
      by_cases hregister : p.node.kind = .register
      · simp only [hregister, if_true, beq_self_eq_true, Bool.true_and]
        exact decides_askAll _
      · simp only [hregister, if_false, beq_eq_false_iff_ne.2 hregister, Bool.false_and]
        exact Settles.pure false

lemma decides_askVisible (ps : List Place) :
    HideState.Decides (askVisible h predicate t ps) fun later =>
      ps.filter fun c => !later.screen c := by
  induction ps with
  | nil => exact Settles.pure []
  | cons p rest ih =>
    rw [askVisible]
    simp only [List.filter_cons, Bool.not_eq_true']
    refine Settles.step (g := fun later hidden => .ok (if hidden = false then
      p :: rest.filter fun c => !later.screen c else rest.filter fun c => !later.screen c))
      (decides_askHidden p) fun hidden => ?_
    refine Settles.step (g := fun _ visible => .ok (if hidden = false then p :: visible
      else visible)) ih fun visible => ?_
    cases hidden with
    | true => exact Settles.pure visible
    | false => exact Settles.pure (p :: visible)

end Hiding

/-! ## Shown children and hashes -/

variable {σ : Type}

namespace ExportMemory

/-- The answers about single nodes that are noted in the memory of an export. -/
def told (memory : ExportMemory σ) : HideAnswers := memory.hide.answers

/-- What is hidden by the answers that are noted in the memory. -/
def screen (memory : ExportMemory σ) : Screen := memory.told.screen

/-- Everything that is remembered is what every later decision gives without a memory. -/
structure Decided (e : Export σ) (memory : ExportMemory σ) : Prop where
  accessors : ∀ id children, memory.accessors.lookup id = some children →
    ∀ p ∈ e.tree.top.subtree, p.id = id → ∀ later, memory.told.Stays later →
      later.screen.accessors p = children
  types : ∀ id type, memory.types.lookup id = some type →
    ∀ p ∈ e.tree.top.subtree, p.id = id → ∀ later, memory.told.Stays later →
      later.screen.typeHash e.hasher e.tree p = .ok type

lemma decided_empty {e : Export σ} (s : σ) : (ExportMemory.empty s).Decided e where
  accessors _ _ hlookup := nomatch hlookup
  types _ _ hlookup := nomatch hlookup

/-- What is remembered stays right when more answers are noted. -/
lemma Decided.withHide {e : Export σ} {memory : ExportMemory σ} {hide : HideState σ}
    (hmemory : memory.Decided e) (hstays : memory.told.Stays hide.answers) :
    Decided e { memory with hide } where
  accessors id children hlookup p hp hid later hlater :=
    hmemory.accessors id children hlookup p hp hid later (hstays.trans hlater)
  types id type hlookup p hp hid later hlater :=
    hmemory.types id type hlookup p hp hid later (hstays.trans hlater)

end ExportMemory

open ExportMemory

section Exports

variable {e : Export σ}

lemma settles_asking {α : Type} {x : Asking (HideState σ) α} {y : HideAnswers → α}
    (hx : HideState.Decides x y) :
    Settles told (Decided e) (Export.asking x) fun later => .ok (y later) := by
  intro s hs
  obtain ⟨-, hstays, hvalue⟩ := hx s.hide trivial
  exact ⟨hs.withHide hstays, hstays, hvalue⟩

/-- The shown children of a place are those that the noted answers show. -/
theorem settles_children (hroot : e.tree.top.Distinct) {p : Place} (hp : p ∈ e.tree.top.subtree) :
    Settles told (Decided e) (e.children p) fun later => .ok (later.screen.accessors p) := by
  intro s hs
  unfold Export.children
  rw [Asking.run_get_bind]
  cases hlookup : s.accessors.lookup p.id with
  | some known =>
    have hknown : Settles told (Decided e) (Export.asking (askVisible e.hide e.predicate e.tree
        (known.map (·.1))) >>= fun _ => pure known) fun _ => .ok known :=
      Settles.step (g := fun _ _ => .ok known) (settles_asking (decides_askVisible _))
        fun _ => Settles.pure known
    obtain ⟨hs', hstays, hvalue⟩ := hknown s hs
    refine ⟨hs', hstays, fun a ha later hlater => ?_⟩
    rw [← hvalue a ha later hlater]
    exact congrArg _ (hs.accessors p.id known hlookup p hp rfl later (hstays.trans hlater))
  | none =>
    have hdecides : HideState.Decides (askVisible e.hide e.predicate e.tree p.children)
        fun later => p.children.filter fun c => !later.screen c := decides_askVisible p.children
    obtain ⟨hs', hstays, hvalue⟩ := settles_asking hdecides s hs
    dsimp only
    rw [Asking.run_bind]
    rcases hrun : (Export.asking (askVisible e.hide e.predicate e.tree p.children)).run s with
      ⟨fault | visible, s'⟩ <;> rw [hrun] at hs' hstays hvalue
    · exact ⟨hs', hstays, fun _ ha => nomatch ha⟩
    · have hvisible : ∀ later, s'.told.Stays later → later.screen.visibleChildren p = visible :=
        fun later hlater => Except.ok.inj (hvalue visible rfl later hlater)
      have hshown : ∀ later, s'.told.Stays later → later.screen.accessors p =
          visible.zip (accessorNames p.node.kind (visible.map (·.node))) := by
        intro later hlater
        rw [Screen.accessors, hvisible later hlater]
      refine ⟨⟨fun id children hfound p' hp' hid later hlater => ?_, hs'.types⟩, hstays,
        fun a ha later hlater => ?_⟩
      · rcases lookup_cons_cases hfound with ⟨heq, rfl⟩ | hfound
        · rw [hroot.eq_of_id_eq hp' hp (hid.trans heq)]
          exact hshown later hlater
        · exact hs'.accessors id children hfound p' hp' hid later hlater
      · cases ha
        exact congrArg _ (hshown later hlater)

/-- The hash of a place is the one that the noted answers give without a memory. -/
theorem settles_typeHash (hroot : e.tree.top.Distinct) {p : Place} (hp : p ∈ e.tree.top.subtree) :
    Settles told (Decided e) (e.typeHash p) fun later =>
      later.screen.typeHash e.hasher e.tree p := by
  induction p using Place.induction with
  | step p ih =>
    have hshape : Settles told (Decided e) (shapeOf e.hasher e.tree e.queries p) fun later =>
        shapeOf e.hasher e.tree later.screen.queries p :=
      (settling told (Decided e)).rel_shapeOf (settles_children hroot hp) fun c hc =>
        ih c hc (Place.children_mem_subtree hp hc)
    intro s hs
    unfold Export.typeHash
    have hknown : (e.queries.known p.id).run s = (.ok (s.types.lookup p.id), s) := rfl
    rw [typeHash_eq, Asking.run_bind, hknown]
    dsimp only
    cases hlookup : s.types.lookup p.id with
    | some known =>
      refine ⟨hs, HideAnswers.Stays.refl _, fun type htype later hlater => ?_⟩
      rw [hs.types p.id known hlookup p hp rfl later hlater]
      exact htype
    | none =>
      obtain ⟨hs', hstays, hvalue⟩ := hshape s hs
      simp only [Screen.typeHash_eq_shapeOf]
      rw [Asking.run_bind]
      rcases hrun : (shapeOf e.hasher e.tree e.queries p).run s with ⟨fault | type, s'⟩ <;>
        rw [hrun] at hs' hstays hvalue
      · exact ⟨hs', hstays, fun _ htype => nomatch htype⟩
      · refine ⟨⟨hs'.accessors, fun id known hfound p' hp' hid later hlater => ?_⟩, hstays,
          fun a ha later hlater => ?_⟩
        · rcases lookup_cons_cases hfound with ⟨heq, rfl⟩ | hfound
          · rw [hroot.eq_of_id_eq hp' hp (hid.trans heq), Screen.typeHash_eq_shapeOf]
            exact hvalue _ rfl later hlater
          · exact hs'.types id known hfound p' hp' hid later hlater
        · cases ha
          exact hvalue _ rfl later hlater

/-! ## Plans -/

/-- The plan is the one that the noted answers give without a memory. -/
theorem settles_plan (hroot : e.tree.top.Distinct) :
    Settles told (Decided e) e.plan fun later => later.screen.plan e.hasher e.tree := by
  have hplanned : Settles told (Decided e) (Walk.planned e.hasher e.tree e.queries) fun later =>
      Walk.planned e.hasher e.tree later.screen.queries :=
    Simulation.rel_planned (S := settling told (Decided e)) (fun p hp => settles_children hroot hp)
      fun p hp => settles_typeHash hroot hp
  unfold Export.plan Screen.plan
  refine Settles.step (g := fun later hidden => if hidden then
    .error (.topHidden (e.tree.path e.tree.top)) else
      Walk.planned e.hasher e.tree later.screen.queries)
    (settles_asking (decides_askHidden e.tree.top)) fun hidden => ?_
  cases hidden with
  | true => exact Settles.throw _
  | false => exact hplanned

end Exports

namespace Export

variable {e : Export σ} {memory memory' : ExportMemory σ}

/-- A plan of an export is what the noted answers give without a memory, however the nodes that it
was not told of are decided. -/
theorem plan_eq_ok (ht : e.tree.Loaded) {s : σ} {plan : Plan}
    (h : e.plan.run (.empty s) = (.ok plan, memory)) {answers : HideAnswers}
    (hanswers : memory.told.Stays answers) : answers.screen.plan e.hasher e.tree = .ok plan :=
  (settles_plan ht.distinct_top).eq_ok (decided_empty s) h hanswers

/-- All memories of an export remember what is decided by their answers. -/
theorem Reached.decided (ht : e.tree.Loaded) (h : e.Reached memory) : memory.Decided e := by
  induction h with
  | fresh s => exact decided_empty s
  | children _ hp ih => exact (settles_children ht.distinct_top hp _ ih).1
  | typeHash _ hp ih => exact (settles_typeHash ht.distinct_top hp _ ih).1

end Export

end RegisterMap
