import Mathlib
import RegisterMap.Proofs.Source.Sites
import RegisterMap.Proofs.Source.Unshared

/-!
# Walks through types end

The walks for reset values and for sites go from the place of a type to the shown children, and from
a group among them on to the place of the group's type.  That place may lie anywhere in the tree,
before the child or beside the nodes around it, so neither numbers nor depths say that the walks ever
end.  The heights of what is shown do: the place of a type has the height of every place of that
type, so a walk comes to smaller heights with every step.

To say that the walks end without speaking of fuel, one round of a walk is written down with the walk
of the children's types as an argument (`Rendering.resetsRound`, `Rendering.sitesRound`).  After as
many rounds as the shown tree is high, nothing depends on that argument any more: whatever a further
round would find is not asked for (`Export.representatives_descend`).
-/

namespace RegisterMap

/-! ## Rounds -/

section Rounds

variable {ι β : Type} {round : (ι → β) → ι → β} {P : ι → Prop} {μ : ι → ℕ}

/-- A recursion whose rounds ask only for what is smaller has an answer after some rounds, whatever
is answered in the end. -/
lemma iterate_round_congr (hround : ∀ (f g : ι → β) (i : ι), P i →
    (∀ j, P j → μ j < μ i → f j = g j) → round f i = round g i) (f g : ι → β) (n : ℕ) {i : ι}
    (hi : P i) (hn : μ i < n) : round^[n] f i = round^[n] g i := by
  induction n generalizing i with
  | zero => exact absurd hn (Nat.not_lt_zero _)
  | succ n ih =>
    rw [Function.iterate_succ_apply', Function.iterate_succ_apply']
    exact hround _ _ i hi fun j hj hless => ih hj (by omega)

/-- Two bounds on the rounds lead to one answer. -/
lemma iterate_round_eq {ν : ι → ℕ} (hμ : ∀ (f g : ι → β) (i : ι), P i →
    (∀ j, P j → μ j < μ i → f j = g j) → round f i = round g i)
    (hν : ∀ (f g : ι → β) (i : ι), P i → (∀ j, P j → ν j < ν i → f j = g j) → round f i = round g i)
    (f g : ι → β) {n m : ℕ} {i : ι} (hi : P i) (hn : μ i < n) (hm : ν i < m) :
    round^[n] f i = round^[m] g i := by
  -- With the rounds of both, it does not matter which of them come first.
  calc round^[n] f i = round^[n] (round^[m] g) i := iterate_round_congr hμ _ _ n hi hn
    _ = round^[m] (round^[n] g) i := by
      rw [← Function.iterate_add_apply, Nat.add_comm, Function.iterate_add_apply]
    _ = round^[m] g i := iterate_round_congr hν _ _ m hi hm

end Rounds

namespace Rendering

variable (x : Rendering)

/-- One round of the walk for reset values; `deeper` is the walk through the types of the children. -/
def resetsRound (deeper : Place → ℕ → Except ExportFault (List (ℕ × ℕ))) (p : Place) (base : ℕ) :
    Except ExportFault (List (ℕ × ℕ)) := do
  let words ← (x.childrenOf p).mapM fun (child, _) => x.childResets deeper base child
  pure words.flatten

/-- One round of the walk for sites; `deeper` is the walk through the types of the children. -/
def sitesRound (deeper : Place → List SiteStep → String → ℕ → Except ExportFault (List Site))
    (p : Place) (before : List SiteStep) (module : String) (depth : ℕ) :
    Except ExportFault (List Site) := do
  let sites ← (x.childrenOf p).mapM fun (child, accessor) => do
    let c := child.node.component
    let type ← x.typeOf child
    let steps := before ++ [⟨accessor, c.array.isSome⟩]
    match c.kind with
    | .register => pure [⟨steps, type.place, false, module, depth⟩]
    | .memory => pure [⟨steps, type.place, true, module, depth⟩]
    | .registerFile => deeper type.place steps module depth
    | .addressMap =>
      deeper type.place steps (module ++ "_" ++ withoutUnderscores accessor) steps.length
    | _ => pure []
  pure sites.flatten

variable {x}

lemma resetsIn_eq_rounds (fuel : ℕ) : x.resetsIn fuel = x.resetsRound^[fuel] fun _ _ => pure [] := by
  induction fuel with
  | zero => rfl
  | succ fuel ih =>
    rw [Function.iterate_succ_apply', ← ih]
    rfl

lemma sitesIn_eq_rounds (fuel : ℕ) :
    x.sitesIn fuel = x.sitesRound^[fuel] fun _ _ _ _ => pure [] := by
  induction fuel with
  | zero => rfl
  | succ fuel ih =>
    rw [Function.iterate_succ_apply', ← ih]
    rfl

/-! ## Smaller places -/

section Plans

variable {hidden : Screen} {h : Hasher} (ht : x.tree.Loaded) (hplan : hidden.Plans h x.tree x.plan)
  (hfree : h.CollisionFree (hidden.hashed h x.tree x.tree.top))

include ht hplan hfree in
/-- The type of a group among the shown children of a record is that of a place which is as high as
the group, and not as high as the place of the record. -/
lemma typeOf_group {r : TypeRecord} (hr : r ∈ x.plan.records) {child : Place × String}
    (hchild : child ∈ x.childrenOf r.place) (hgroup : IsGroup child.1) :
    ∃ r' ∈ x.plan.records, x.typeOf child.1 = .ok r' ∧ IsGroup r'.place ∧
      hidden.height r'.place = hidden.height child.1 ∧
      hidden.height r'.place < hidden.height r.place := by
  unfold childrenOf at hchild
  rw [hplan.children r hr] at hchild
  have hvisible := Screen.fst_mem_of_mem_accessors hchild
  have hfield : child.1.node.kind ≠ .field := by
    intro hkind
    rcases hgroup with hgroup | hgroup <;> rw [hkind] at hgroup <;> cases hgroup
  obtain ⟨r', hr', htype, halike, hless⟩ := typeOf_eq ht hplan hfree hr hvisible hfield
  have hchildtop := Place.children_mem_subtree (Screen.places_subset _ (hplan.records r hr).1)
    (Screen.mem_children_of_visible hvisible)
  have hheight := halike.height_eq ht hchildtop (Screen.places_subset _ (hplan.records r' hr').1)
  refine ⟨r', hr', htype, ?_, hheight.symm, hless⟩
  unfold IsGroup
  rw [← halike.kind_eq]
  exact hgroup

/-- The walks that agree at the places of groups which are less high than that of a record. -/
def AgreeBelow {β : Type} (x : Rendering) (hidden : Screen) (r : TypeRecord) (f g : Place → β) :
    Prop :=
  ∀ r' ∈ x.plan.records, IsGroup r'.place → hidden.height r'.place < hidden.height r.place →
    f r'.place = g r'.place

include ht hplan hfree in
/-- A round asks for the groups among the children of a record only at less high places. -/
lemma AgreeBelow.at_child {β : Type} {f g : Place → β} {r type : TypeRecord}
    (hr : r ∈ x.plan.records) (hagree : x.AgreeBelow hidden r f g) {child : Place × String}
    (hchild : child ∈ x.childrenOf r.place) (htype : x.typeOf child.1 = .ok type)
    (hgroup : IsGroup child.1) : f type.place = g type.place := by
  obtain ⟨r', hr', htype', hgroup', -, hless⟩ := typeOf_group ht hplan hfree hr hchild hgroup
  obtain rfl := Except.ok.inj (htype.symm.trans htype')
  exact hagree type hr' hgroup' hless

include ht hplan hfree in
lemma resetsRound_congr {f g : Place → ℕ → Except ExportFault (List (ℕ × ℕ))} {r : TypeRecord}
    (hr : r ∈ x.plan.records) (hagree : x.AgreeBelow hidden r f g) :
    x.resetsRound f r.place = x.resetsRound g r.place := by
  funext base
  refine congrArg (· >>= _) (mapM_congr fun ⟨child, accessor⟩ hchild => ?_)
  unfold childResets
  refine congrArg (ExportFault.ofOverflow _ >>= ·) (funext fun (count, stride) => ?_)
  cases htype : x.typeOf child with
  | error fault => rfl
  | ok type =>
    have hsame := hagree.at_child ht hplan hfree hr hchild htype
    have helement : ∀ address, x.elementResets f child.node.component.kind type.place address =
        x.elementResets g child.node.component.kind type.place address := by
      intro address
      unfold elementResets
      cases hkind : child.node.component.kind with
      | registerFile => exact congrFun (hsame (.inl hkind)) _
      | addressMap => exact congrFun (hsame (.inr hkind)) _
      | _ => rfl
    dsimp only
    rw [bind_of_eq_ok rfl, bind_of_eq_ok rfl]
    simp only [helement]

include ht hplan hfree in
lemma sitesRound_congr
    {f g : Place → List SiteStep → String → ℕ → Except ExportFault (List Site)} {r : TypeRecord}
    (hr : r ∈ x.plan.records) (hagree : x.AgreeBelow hidden r f g) :
    x.sitesRound f r.place = x.sitesRound g r.place := by
  funext before module depth
  refine congrArg (· >>= _) (mapM_congr fun ⟨child, accessor⟩ hchild => ?_)
  dsimp only
  cases htype : x.typeOf child with
  | error fault => rfl
  | ok type =>
    have hsame := hagree.at_child ht hplan hfree hr hchild htype
    cases hkind : child.node.component.kind with
    | registerFile => exact congrFun (congrFun (congrFun (hsame (.inl hkind)) _) _) _
    | addressMap => exact congrFun (congrFun (congrFun (hsame (.inr hkind)) _) _) _
    | _ => rfl

/-- A walk in rounds that ask for less high places only has its answer after as many rounds as a
place is high, and after as many as there are types. -/
lemma rounds_eq {β : Type} {round : (Place → β) → Place → β}
    (hround : ∀ (f g : Place → β) (r : TypeRecord), r ∈ x.plan.records →
      x.AgreeBelow hidden r f g → round f r.place = round g r.place) (f g : Place → β)
    {r : TypeRecord} (hr : r ∈ x.plan.records) (hgroup : IsGroup r.place) {depth : ℕ}
    (hdepth : hidden.height r.place < depth) :
    round^[depth] f r.place = round^[x.plan.records.length + 1] g r.place := by
  have hranks : x.plan.rank hidden r.place < x.plan.records.length + 1 :=
    Nat.lt_succ_of_le (Plan.rank_le _ _ _)
  -- Heights bound the rounds that the tree needs, ranks those that the fuel allows for.
  refine iterate_round_eq (P := fun p => ∃ r ∈ x.plan.records, r.place = p ∧ IsGroup p)
    (μ := hidden.height) (ν := x.plan.rank hidden) ?_ ?_ f g ⟨r, hr, rfl, hgroup⟩ hdepth hranks
  · rintro f g _ ⟨r, hr, rfl, -⟩ hsame
    exact hround f g r hr fun r' hr' hgroup' hless => hsame _ ⟨r', hr', rfl, hgroup'⟩ hless
  · rintro f g _ ⟨r, hr, rfl, -⟩ hsame
    exact hround f g r hr fun r' hr' hgroup' hless =>
      hsame _ ⟨r', hr', rfl, hgroup'⟩ (Plan.rank_lt hr' hless)

include ht hplan hfree in
lemma resetsRounds_eq {r : TypeRecord} (hr : r ∈ x.plan.records) (hgroup : IsGroup r.place)
    {depth : ℕ} (hdepth : hidden.height r.place < depth)
    (f g : Place → ℕ → Except ExportFault (List (ℕ × ℕ))) :
    x.resetsRound^[depth] f r.place = x.resetsRound^[x.plan.records.length + 1] g r.place := by
  refine rounds_eq (fun f g r hr hagree => ?_) f g hr hgroup hdepth
  exact resetsRound_congr ht hplan hfree hr hagree

include ht hplan hfree in
lemma sitesRounds_eq {r : TypeRecord} (hr : r ∈ x.plan.records) (hgroup : IsGroup r.place)
    {depth : ℕ} (hdepth : hidden.height r.place < depth)
    (f g : Place → List SiteStep → String → ℕ → Except ExportFault (List Site)) :
    x.sitesRound^[depth] f r.place = x.sitesRound^[x.plan.records.length + 1] g r.place := by
  refine rounds_eq (fun f g r hr hagree => ?_) f g hr hgroup hdepth
  exact sitesRound_congr ht hplan hfree hr hagree

end Plans

/-! ## From the export root -/

lemma typeOf?_of_typeOf {p : Place} {r : TypeRecord} (htype : x.typeOf p = .ok r) :
    x.plan.typeOf? p.id = some r := by
  unfold typeOf at htype
  split at htype
  · next hfound => rw [hfound, Except.ok.inj htype]
  · cases htype

lemma resetValues_eq_rounds {top : TypeRecord} (htop : x.topType = .ok top) : x.resetValues =
    ExportFault.ofOverflow x.tree.top.address >>=
      x.resetsRound^[x.plan.records.length + 1] (fun _ _ => pure []) top.place := by
  unfold resetValues
  rw [bind_of_eq_ok htop, resetsIn_eq_rounds]

lemma sites_eq_rounds {top : TypeRecord} (htop : x.topType = .ok top) : x.sites =
    x.sitesRound^[x.plan.records.length + 1] (fun _ _ _ _ => pure []) top.place [] x.topModule
      0 := by
  unfold sites
  rw [bind_of_eq_ok htop, sitesIn_eq_rounds]

end Rendering

namespace Export

variable {σ : Type} {e : Export σ} {s : σ} {plan : Plan} {memory : ExportMemory σ}

/-- From a group that is shown at the place of a record, going on to the place of the group's type
leads to a shown tree of the same height, which is smaller than that of the record.  So the walks for
reset values and for sites end: with more rounds than the export root is high, they give their
results, whatever is said of deeper places.  What is shown is decided by the answers that the export
was given, with any answers about nodes that it did not ask for. -/
theorem representatives_descend (ht : e.tree.Loaded)
    (h : e.plan.run (.empty s) = (.ok plan, memory)) {answers : HideAnswers}
    (hanswers : memory.told.Stays answers)
    (hfree : e.hasher.CollisionFree (answers.screen.hashed e.hasher e.tree e.tree.top)) :
    (∀ r ∈ plan.records, ∀ child ∈ plan.childrenOf r.place.id,
      child.1.node.kind = .registerFile ∨ child.1.node.kind = .addressMap →
        ∃ r' ∈ plan.records, plan.typeOf? child.1.id = some r' ∧
          answers.screen.height r'.place = answers.screen.height child.1 ∧
          answers.screen.height r'.place < answers.screen.height r.place) ∧
      ∀ config, ∃ top, (Rendering.mk e.tree plan config).topType = .ok top ∧
        ∀ rounds, answers.screen.height e.tree.top < rounds →
          (∀ deeper, (ExportFault.ofOverflow e.tree.top.address >>=
              (Rendering.mk e.tree plan config).resetsRound^[rounds] deeper top.place) =
                (Rendering.mk e.tree plan config).resetValues) ∧
            ∀ deeper, (Rendering.mk e.tree plan config).sitesRound^[rounds] deeper top.place []
              (Identifier.snakeCase e.tree.top.node.instName) 0 =
                (Rendering.mk e.tree plan config).sites := by
  have hplan := Screen.plans_of_eq_ok ht (plan_eq_ok ht h hanswers)
  refine ⟨fun r hr child hchild hgroup => ?_, fun config => ?_⟩
  · obtain ⟨r', hr', htype, -, hheight, hless⟩ :=
      Rendering.typeOf_group (x := ⟨e.tree, plan, {}⟩) ht hplan hfree hr hchild hgroup
    exact ⟨r', hr', Rendering.typeOf?_of_typeOf htype, hheight, hless⟩
  · let x : Rendering := ⟨e.tree, plan, config⟩
    obtain ⟨top, htop, htype, halike⟩ := Rendering.topType_eq (x := x) ht hplan hfree
    have hgroup : Rendering.IsGroup top.place := .inr (halike.kind_eq.symm.trans ht.kind_top)
    have hheight := halike.height_eq ht e.tree.top.mem_subtree_self
      (Screen.places_subset _ (hplan.records top htop).1)
    refine ⟨top, htype, fun rounds hrounds => ⟨fun deeper => ?_, fun deeper => ?_⟩⟩
    · have hwalk := Rendering.resetsRounds_eq (x := x) ht hplan hfree htop hgroup (hheight ▸ hrounds)
        deeper fun _ _ => pure []
      rw [Rendering.resetValues_eq_rounds htype]
      exact congrArg (ExportFault.ofOverflow e.tree.top.address >>= ·) hwalk
    · have hwalk := Rendering.sitesRounds_eq (x := x) ht hplan hfree htop hgroup (hheight ▸ hrounds)
        deeper fun _ _ _ _ => pure []
      rw [Rendering.sites_eq_rounds htype]
      exact congrFun (congrFun (congrFun hwalk _) _) _

/-! ## A file that is looked up in another one -/

/-- A register file, and another one with such a file in it. -/
def sharedFiles : RegisterTree :=
  let file : Description := .group .registerFile "p" 0 [.register "x" 0 [.resetField "v" 0 3 5]]
  (Description.group .addressMap "t" 0 [file, .group .registerFile "b" 16 [file]]).tree

/-- What the export is told of the nodes: all of them are shown. -/
def allFilesShown : HideAnswers := [7, 6, 5, 3, 2, 4, 1, 0].map fun id => (id, false)

/-- What is in the file inside the second one is looked up in the first one, which is not in the
second one, and the walks end after four rounds. -/
theorem part_is_looked_up_beside : ∃ plan memory,
    (quick sharedFiles).plan.run (.empty ()) = (.ok plan, memory) ∧
      (∃ r ∈ plan.records, ∃ child ∈ plan.childrenOf r.place.id, ∃ r' ∈ plan.records,
        r.place.id = 4 ∧ child.1.id = 5 ∧ plan.typeOf? child.1.id = some r' ∧ r'.place.id = 1 ∧
          allFilesShown.screen.height r'.place < allFilesShown.screen.height r.place) ∧
      ∃ top, (Rendering.mk sharedFiles plan {}).topType = .ok top ∧
        (ExportFault.ofOverflow sharedFiles.top.address >>=
          (Rendering.mk sharedFiles plan {}).resetsRound^[5] (fun _ _ => pure []) top.place) =
          (Rendering.mk sharedFiles plan {}).resetValues := by
  have ht : sharedFiles.Loaded := Description.loaded_tree (by decide +kernel)
  have hrun : ∃ plan ∈ ((quick sharedFiles).plan.run (.empty ())).1.toOption,
      ((quick sharedFiles).plan.run (.empty ())).2.told = allFilesShown ∧
        ∃ r ∈ plan.records, ∃ child ∈ plan.childrenOf r.place.id, r.place.id = 4 ∧
          child.1.id = 5 ∧ child.1.node.kind = .registerFile ∧
            (plan.typeOf? child.1.id).map (·.place.id) = some 1 := by
    decide +kernel
  obtain ⟨plan, hplan, htold, r, hr, child, hchild, hid, hchildid, hkind, hplace⟩ := hrun
  have hfree : (quick sharedFiles).hasher.CollisionFree (allFilesShown.screen.hashed
      (quick sharedFiles).hasher sharedFiles sharedFiles.top) := by
    decide +kernel
  obtain ⟨hdescend, hwalks⟩ := representatives_descend (e := quick sharedFiles) ht (run_of_mem hplan)
    (htold ▸ HideAnswers.Stays.refl _) hfree
  obtain ⟨r', hr', htype, -, hless⟩ := hdescend r hr child hchild (.inl hkind)
  obtain ⟨top, htop, hrounds⟩ := hwalks {}
  have hheight : allFilesShown.screen.height sharedFiles.top < 5 := by decide +kernel
  rw [htype] at hplace
  exact ⟨plan, _, run_of_mem hplan, ⟨r, hr, child, hchild, r', hr', hid, hchildid, htype,
    Option.some.inj hplace, hless⟩, top, htop, (hrounds 5 hheight).1 _⟩

end Export

end RegisterMap
