import Mathlib
import RegisterMap.Proofs.Export.Walk

/-!
# The order of the types of a plan

Types are listed last one first, so a type precedes another one exactly when its record was met
later.  The type of a child is met with the child at the latest, but it may have been met long
before, elsewhere in the tree.  It precedes the type of the parent exactly when the place where it
was met lies inside the parent (`plan_precedes_iff`).

None of this depends on what is hidden, so it holds for every predicate of the caller.
-/

namespace RegisterMap

namespace Export

variable {σ : Type} {e : Export σ}

/-! ## Answers of the memory -/

/-- The children that are remembered are children. -/
def RemembersChildren (root : Place) (memory : ExportMemory σ) : Prop :=
  ∀ id children, memory.accessors.lookup id = some children →
    ∀ p ∈ root.subtree, p.id = id → ∀ child ∈ children, child.1 ∈ p.children

lemma holds_asking {I : ExportMemory σ → Prop} {α : Type} {x : Asking (HideState σ) α}
    {P : α → Prop} (hI : ∀ memory hide, I memory → I { memory with hide })
    (hx : (Outcomes.under fun _ => True).holds x P) :
    (Outcomes.under I).holds (asking x) P :=
  fun s hs => ⟨hI s _ hs, (hx s.hide trivial).2⟩

lemma holds_askVisible {τ : Type} {h : Hiding} {predicate : HidePredicate τ} {t : RegisterTree}
    (ps : List Place) :
    (Outcomes.under fun _ => True).holds (askVisible h predicate t ps) fun visible =>
      visible.Sublist ps := by
  induction ps with
  | nil => exact Outcomes.pure _ (List.Sublist.refl _)
  | cons p rest ih =>
    rw [askVisible]
    have hany : (Outcomes.under fun _ : HideState τ => True).holds (askHidden h predicate t p)
        fun _ => True := fun _ _ => ⟨trivial, fun _ _ => trivial⟩
    refine Outcomes.bind _ hany fun hidden _ => ?_
    refine Outcomes.bind _ ih fun visible hvisible => Outcomes.pure _ ?_
    cases hidden with
    | true => exact hvisible.cons p
    | false => exact hvisible.cons_cons p

lemma holds_children {root p : Place} (hroot : root.node.Numbered) (hp : p ∈ root.subtree) :
    (Outcomes.under (RemembersChildren root)).holds (e.children p) fun children =>
      ∀ child ∈ children, child.1 ∈ p.children := by
  have hget : (Outcomes.under (RemembersChildren root)).holds
      (MonadState.get : Exporting σ (ExportMemory σ)) (RemembersChildren root) :=
    fun s hs => ⟨hs, fun a ha => Except.ok.inj ha ▸ hs⟩
  have hasks : ∀ ps : List Place, (Outcomes.under (RemembersChildren root)).holds
      (asking (askVisible e.hide e.predicate e.tree ps)) fun visible => visible.Sublist ps :=
    fun ps => holds_asking (fun _ _ h => h) (holds_askVisible ps)
  unfold children
  refine Outcomes.bind _ hget fun memory hmemory => ?_
  split
  · next known hknown =>
    refine Outcomes.bind _ (hasks _) fun _ _ => Outcomes.pure _ ?_
    exact hmemory p.id known hknown p hp rfl
  · refine Outcomes.bind _ (hasks _) fun visible hvisible => ?_
    have hzip : ∀ child ∈ visible.zip (accessorNames p.node.kind (visible.map (·.node))),
        child.1 ∈ p.children := fun child hchild => hvisible.subset (List.of_mem_zip hchild).1
    refine Outcomes.bind (P := fun _ => True) _ ?_ fun _ _ => Outcomes.pure _ hzip
    refine fun s hs => ⟨fun id children hlookup p' hp' hid => ?_, fun _ _ => trivial⟩
    rcases lookup_cons_cases hlookup with ⟨heq, rfl⟩ | hlookup
    · rw [Place.eq_of_id_eq hroot hp' hp (hid.trans heq)]
      exact hzip
    · exact hs id children hlookup p' hp' hid

/-! ## The plan -/

/-- What the plan of any export is known to satisfy. -/
theorem sound_plan (ht : e.tree.Loaded) {s : σ} {plan : Plan} {memory : ExportMemory σ}
    (h : e.plan.run (.empty s) = (.ok plan, memory)) :
    ∃ w : Walk, w.plan = plan ∧ Walk.Sound (· ∈ e.tree.top.subtree) (fun _ _ => True)
      (fun p children => ∀ child ∈ children, child.1 ∈ p.children)
      (e.tree.top.id + e.tree.top.node.size) w := by
  have hnumbered := ht.numbered_top
  have hknown : ∀ id, (Outcomes.under (RemembersChildren e.tree.top)).holds (e.queries.known id)
      fun _ => True := fun id s hs => ⟨hs, fun _ _ => trivial⟩
  have hremember : ∀ id type, (Outcomes.under (RemembersChildren e.tree.top)).holds
      (e.queries.remember id type) fun _ => True := fun id type s hs => ⟨hs, fun _ _ => trivial⟩
  have facts : Walk.Facts (Outcomes.under (RemembersChildren e.tree.top)) e.hasher e.tree e.queries
      e.tree.top (· ∈ e.tree.top.subtree) (fun _ _ => True)
      (fun p children => ∀ child ∈ children, child.1 ∈ p.children) :=
    { numbered := hnumbered
      inTree := fun _ hp => hp
      child := fun p _ c hp _ hc _ => Place.children_mem_subtree hp hc
      type := fun p hp => Outcomes.holds_typeHash _
        (fun p hp => Outcomes.imp _ (holds_children hnumbered hp) fun _ _ => trivial)
        hknown hremember hp
      children := fun p hp => holds_children hnumbered hp }
  have hplanned := Walk.holds_planned facts (Place.mem_subtree_self _)
  have hhidden : (Outcomes.under (RemembersChildren e.tree.top)).holds (e.isHidden e.tree.top)
      fun _ => True :=
    holds_asking (fun _ _ h => h) fun _ _ => ⟨trivial, fun _ _ => trivial⟩
  have hplan : (Outcomes.under (RemembersChildren e.tree.top)).holds e.plan fun plan =>
      ∃ w : Walk, w.plan = plan ∧ Walk.Sound (· ∈ e.tree.top.subtree) (fun _ _ => True)
        (fun p children => ∀ child ∈ children, child.1 ∈ p.children)
        (e.tree.top.id + e.tree.top.node.size) w := by
    unfold Export.plan
    refine Outcomes.bind _ hhidden fun hidden _ => ?_
    cases hidden with
    | true => exact Outcomes.throw _
    | false => exact hplanned
  have hempty : RemembersChildren e.tree.top (ExportMemory.empty s) := by
    intro id children hlookup
    simp [ExportMemory.empty] at hlookup
  exact (hplan _ hempty).2 plan (by rw [h])

variable {s : σ} {plan : Plan} {memory : ExportMemory σ}

/-- In every plan, the type of a child precedes the type of its parent exactly when the place where
it was met lies inside the place of the parent's record. -/
theorem plan_precedes_iff (ht : e.tree.Loaded) (h : e.plan.run (.empty s) = (.ok plan, memory))
    {i j : ℕ} {r r' : TypeRecord} (hi : plan.records[i]? = some r)
    (hj : plan.records[j]? = some r') {child : Place} {accessor : String}
    (hchild : (child, accessor) ∈ plan.childrenOf r.place.id)
    (htype : plan.typeOf? child.id = some r') : j < i ↔ r'.place.Inside r.place := by
  obtain ⟨w, rfl, hsound⟩ := sound_plan ht h
  have hnumbered := ht.numbered_top
  have hr : r ∈ w.plan.records := List.mem_of_getElem? hi
  have hr' : r' ∈ w.plan.records := List.mem_of_getElem? hj
  have hplace := (hsound.records r hr).1
  have hplace' := (hsound.records r' hr').1
  have horder : j < i ↔ r.place.id < r'.place.id := by
    have hpairs := List.pairwise_iff_getElem.1 hsound.ordered
    obtain ⟨hi', rfl⟩ := List.getElem?_eq_some_iff.1 hi
    obtain ⟨hj', rfl⟩ := List.getElem?_eq_some_iff.1 hj
    constructor
    · exact hpairs j i hj' hi'
    · intro hlt
      by_contra hle
      rcases Nat.lt_or_eq_of_le (Nat.not_lt.1 hle) with hless | rfl
      · exact absurd (hpairs i j hi' hj' hless) (Nat.lt_asymm hlt)
      · exact absurd hlt (Nat.lt_irrefl _)
  have hbelow : r'.place.id < r.place.id + r.place.node.size := by
    have hinside := hsound.childrenOf hnumbered (fun _ h => h) hr hchild _ hchild
    have hlast := ((Place.inside_iff hnumbered
      (Place.children_mem_subtree hplace hinside) hplace).1
      ⟨child, hinside, child.mem_subtree_self⟩).2
    exact (hsound.typeOf?_le htype).trans_lt hlast
  rw [horder, Place.inside_iff hnumbered hplace' hplace]
  exact ⟨fun hlt => ⟨hlt, hbelow⟩, fun hin => hin.1⟩

/-! ## Small exports -/

/-- The run that small exports are made in. -/
@[reducible] def smallRun : RunHash := Folded.runHash 0xcbf29ce484222325

section

attribute [local instance] smallRun

/-- The usual export of a tree, from which nothing is hidden but what says so of itself. -/
def usual (t : RegisterTree) : Export Unit := ⟨t, ⟨true, []⟩, .nothing, Hasher.ofConfig {}⟩

/-- The usual export of a tree, but with the digest that is only good for one run. -/
def quick (t : RegisterTree) : Export Unit :=
  ⟨t, ⟨true, []⟩, .nothing, Hasher.ofConfig { algorithm := .fast }⟩

/-- The plan of the usual export, if there is one. -/
def usualPlan (t : RegisterTree) : Option Plan := ((usual t).plan.run (.empty ())).1.toOption

/-- An export that ends with a plan. -/
lemma run_of_mem {memory : ExportMemory σ} (h : plan ∈ (e.plan.run memory).1.toOption) :
    e.plan.run memory = (.ok plan, (e.plan.run memory).2) := by
  refine Prod.ext ?_ rfl
  cases hrun : (e.plan.run memory).1 with
  | error fault => rw [hrun] at h; cases h
  | ok plan' => rw [hrun] at h; cases h; rfl

lemma run_of_mem_usualPlan {t : RegisterTree} (h : plan ∈ usualPlan t) :
    (usual t).plan.run (.empty ()) = (.ok plan, ((usual t).plan.run (.empty ())).2) :=
  run_of_mem h

/-- The type of a node stands where the first record with its hash stands. -/
lemma getElem?_findIdx_of_typeOf? {id : ℕ} {r : TypeRecord} (h : plan.typeOf? id = some r) :
    plan.records[plan.records.findIdx (·.hash == r.hash)]? = some r := by
  rw [← List.find?_eq_getElem?_findIdx]
  exact (Walk.typeOf?_eq_some h).2.2

/-- A register file with a register of one field. -/
def block (offset : ℕ) : Description :=
  .group .registerFile "blk" offset [.register "x" 0 [.field "v" 0 7 .readWrite []]]

/-- An address map of one register file. -/
def oneBlock : Description := .group .addressMap "top" 0 [block 0]

/-- The register of a register file is first met there, and its type precedes that of the file. -/
theorem register_type_lies_in_block : ∃ plan ∈ usualPlan oneBlock.tree, ∃ r ∈ plan.records[1]?,
    ∃ c ∈ plan.childrenOf r.place.id, ∃ r' ∈ plan.typeOf? c.1.id, r'.place.Inside r.place := by
  have ht : oneBlock.tree.Loaded := Description.loaded_tree (by decide +kernel)
  have hfound : ∃ plan ∈ usualPlan oneBlock.tree, ∃ r ∈ plan.records[1]?,
      ∃ c ∈ plan.childrenOf r.place.id, ∃ r' ∈ plan.typeOf? c.1.id,
        plan.records.findIdx (·.hash == r'.hash) = 0 := by decide +kernel
  obtain ⟨plan, hplan, r, hr, c, hc, r', hr', hindex⟩ := hfound
  have hposition := getElem?_findIdx_of_typeOf? hr'
  rw [hindex] at hposition
  have hprecedes := plan_precedes_iff (e := usual oneBlock.tree) ht (run_of_mem_usualPlan hplan) hr
    hposition hc hr'
  exact ⟨plan, hplan, r, hr, c, hc, r', hr', hprecedes.1 Nat.zero_lt_one⟩

/-- An address map of a register and of a register file with a register of the same shape. -/
def sharedOutside : Description :=
  .group .addressMap "top" 0 [.register "x" 0 [.field "v" 0 7 .readWrite []], block 16]

/-- The type of a register that was first met outside of a register file comes after the type of
the file. -/
theorem shared_type_follows : sharedOutside.tree.Loaded ∧
    ∃ plan ∈ usualPlan sharedOutside.tree, ∃ r ∈ plan.records[0]?,
      ∃ c ∈ plan.childrenOf r.place.id, ∃ r' ∈ plan.typeOf? c.1.id,
        plan.records.findIdx (·.hash == r'.hash) = 1 := by
  refine ⟨Description.loaded_tree (by decide +kernel), ?_⟩
  decide +kernel

end

end Export

end RegisterMap
