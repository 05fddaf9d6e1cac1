import Mathlib
import RegisterMap.Proofs.Export.Names
import RegisterMap.Proofs.Export.Walk
import RegisterMap.Proofs.Results
import RegisterMap.Source.Sites

/-!
# Sites of generated tests

A site is grouped under the module that the address map around it names, and its test is named after
the accessors that lead there from that address map.  Both names are put together from accessors, so
no separator occurs in them besides underscores, and a module never has the name of the file that
declares the modules (`sited_of_mem_sites`).
-/

namespace RegisterMap

/-! ## Modules -/

section Modules

variable {sites : List Site} {m : String}

/-- The modules met so far and those of the sites to come, each once. -/
lemma foldl_modules (sites : List Site) {ms : List String} (hms : ms.Nodup) :
    (sites.foldl (fun ms s => if ms.contains s.module then ms else ms ++ [s.module]) ms).Nodup ∧
      ∀ m, m ∈ sites.foldl (fun ms s => if ms.contains s.module then ms else ms ++ [s.module]) ms ↔
        m ∈ ms ∨ ∃ s ∈ sites, s.module = m := by
  induction sites generalizing ms with
  | nil => simpa using hms
  | cons s rest ih =>
    rw [List.foldl_cons]
    by_cases hs : s.module ∈ ms
    · rw [if_pos (by simpa using hs)]
      refine ⟨(ih hms).1, fun m => ?_⟩
      rw [(ih hms).2, List.exists_mem_cons_iff]
      refine or_congr_right' fun hm => ?_
      rw [or_iff_right]
      rintro rfl
      exact hm hs
    · have hadded : (ms ++ [s.module]).Nodup := by
        rw [List.nodup_append_comm]
        exact List.nodup_cons.2 ⟨hs, hms⟩
      rw [if_neg (by simpa using hs)]
      refine ⟨(ih hadded).1, fun m => ?_⟩
      rw [(ih hadded).2, List.exists_mem_cons_iff, List.mem_append, List.mem_singleton, or_assoc,
        @eq_comm _ m]

lemma nodup_siteModules (sites : List Site) : (siteModules sites).Nodup :=
  (foldl_modules sites List.nodup_nil).1

lemma mem_siteModules_iff : m ∈ siteModules sites ↔ ∃ s ∈ sites, s.module = m := by
  rw [siteModules, (foldl_modules sites List.nodup_nil).2]
  simp

end Modules

/-! ## Names -/

lemma unseparated_withoutUnderscores {name : String} (hname : Unseparated name) :
    Unseparated (withoutUnderscores name) := by
  intro c hc
  rw [withoutUnderscores, String.toList_ofList] at hc
  exact hname c (Identifier.mem_of_mem_dropUnderscores hc)

/-- The characters of joined texts are those of the texts and of what stands between them. -/
lemma mem_intercalate {c : Char} {between : String} {texts : List String}
    (hc : c ∈ (String.intercalate between texts).toList) :
    c ∈ between.toList ∨ ∃ text ∈ texts, c ∈ text.toList := by
  rw [String.toList_intercalate] at hc
  induction texts with
  | nil => cases hc
  | cons text rest ih =>
    cases rest with
    | nil => exact .inr ⟨text, List.mem_cons_self, by simpa using hc⟩
    | cons next rest =>
      rw [List.map_cons, List.map_cons, List.intercalate_cons_cons, List.append_assoc,
        List.mem_append, List.mem_append] at hc
      rcases hc with hc | hc | hc
      · exact .inr ⟨text, List.mem_cons_self, hc⟩
      · exact .inl hc
      · exact (ih hc).imp_right fun ⟨other, hother, hc⟩ =>
          ⟨other, List.mem_cons_of_mem _ hother, hc⟩

lemma unseparated_intercalate {names : List String} (hnames : ∀ name ∈ names, Unseparated name) :
    Unseparated (String.intercalate "_" names) := by
  intro c hc
  rcases mem_intercalate hc with hc | ⟨name, hname, hc⟩
  · exact .inl (by simpa using hc)
  · exact hnames name hname c hc

/-- The name may be that of a module of tests: it is not that of the file that declares them. -/
structure IsModule (m : String) : Prop where
  unseparated : Unseparated m
  ne_root : m ≠ "mod"

lemma IsModule.nested {m name : String} (hm : IsModule m) (hname : Unseparated name) :
    IsModule (m ++ "_" ++ name) where
  unseparated := (hm.unseparated.append unseparated_underscore).append hname
  ne_root h := by
    have hmem : '_' ∈ (m ++ "_" ++ name).toList := by simp
    rw [h] at hmem
    exact absurd hmem (by decide)

lemma Rendering.isModule_topModule (x : Rendering) : IsModule x.topModule where
  unseparated := unseparated_snakeCase _
  ne_root h := by
    have hkeyword := Identifier.snakeCase_notMem x.topName
    rw [Rendering.topModule] at h
    rw [h] at hkeyword
    exact hkeyword (by decide)

/-! ## The search -/

/-- What holds of every site of a rendering: its names, and the place of its type. -/
structure Sited (x : Rendering) (s : Site) : Prop where
  module : IsModule s.module
  accessors : ∀ step ∈ s.steps, Unseparated step.accessor
  place : ∃ r ∈ x.plan.records, r.place = s.place

namespace Rendering

variable {x : Rendering} {sites : List Site}

/-- The accessors in the types of the plan are names that no separator occurs in. -/
def NamesAccessors (x : Rendering) : Prop :=
  ∀ r ∈ x.plan.records, ∀ child ∈ x.childrenOf r.place, Unseparated child.2

lemma typeOf_eq_ok {p : Place} {r : TypeRecord} (h : x.typeOf p = .ok r) : r ∈ x.plan.records := by
  unfold typeOf at h
  split at h
  · next record hrecord =>
    cases h
    exact (Walk.typeOf?_eq_some hrecord).1
  · cases h

/-- One level of the search keeps what holds of the sites, so the whole search does. -/
lemma sited_sitesIn (hx : x.NamesAccessors) {fuel : ℕ} {p : Place} {before : List SiteStep}
    {module : String} {depth : ℕ} (hp : ∃ r ∈ x.plan.records, r.place = p)
    (hmodule : IsModule module)
    (hbefore : ∀ step ∈ before, Unseparated step.accessor)
    (hsites : x.sitesIn fuel p before module depth = .ok sites) : ∀ s ∈ sites, Sited x s := by
  induction fuel generalizing p before module depth sites with
  | zero =>
    cases hsites
    exact nofun
  | succ fuel ih =>
    unfold sitesIn at hsites
    obtain ⟨parts, hparts, hsites⟩ := bind_eq_ok.1 hsites
    cases hsites
    obtain ⟨r, hr, rfl⟩ := hp
    have hchildren : List.Forall₂ (fun child part => Unseparated child.2 → ∀ s ∈ part, Sited x s)
        (x.childrenOf r.place) parts := by
      refine forall₂_of_mapM_eq_ok (fun child part hpart haccessor => ?_) hparts
      obtain ⟨type, htype, hpart⟩ := bind_eq_ok.1 hpart
      have hplace : ∃ r ∈ x.plan.records, r.place = type.place := ⟨type, typeOf_eq_ok htype, rfl⟩
      have hsteps : ∀ step ∈ before ++ [⟨child.2, child.1.node.component.array.isSome⟩],
          Unseparated step.accessor := by
        intro step hstep
        rcases List.mem_append.1 hstep with hstep | hstep
        · exact hbefore step hstep
        · rw [List.mem_singleton.1 hstep]
          exact haccessor
      dsimp only at hpart
      split at hpart
      · cases hpart
        exact List.forall_mem_singleton.2 ⟨hmodule, hsteps, hplace⟩
      · cases hpart
        exact List.forall_mem_singleton.2 ⟨hmodule, hsteps, hplace⟩
      · exact ih hplace hmodule hsteps hpart
      · exact ih hplace (hmodule.nested (unseparated_withoutUnderscores haccessor)) hsteps hpart
      · cases hpart
        exact nofun
    intro s hs
    obtain ⟨part, hpart, hs⟩ := List.mem_flatten.1 hs
    obtain ⟨child, hchild, hkept⟩ := exists_of_forall₂ hchildren.flip hpart
    exact hkept (hx r hr child hchild) s hs

/-- The sites of a rendering have names that no separator occurs in. -/
theorem sited_of_mem_sites (hx : x.NamesAccessors) (hsites : x.sites = .ok sites) :
    ∀ s ∈ sites, Sited x s := by
  unfold Rendering.sites at hsites
  obtain ⟨top, htop, hsites⟩ := bind_eq_ok.1 hsites
  exact sited_sitesIn hx ⟨top, typeOf_eq_ok htop, rfl⟩ x.isModule_topModule (by simp) hsites

end Rendering

/-- No separator occurs in the names of tests. -/
lemma unseparated_testNames {x : Rendering} {sites : List Site} (hsites : ∀ s ∈ sites, Sited x s)
    {name : String} (hname : name ∈ freshNames [] (sites.map Site.testName)) :
    Unseparated name := by
  refine unseparated_freshNames (List.forall_mem_map.2 fun s hs => ?_) hname
  refine Unseparated.append (by decide) (unseparated_intercalate (List.forall_mem_map.2 ?_))
  exact fun step hstep =>
    unseparated_withoutUnderscores ((hsites s hs).accessors step (List.mem_of_mem_drop hstep))

end RegisterMap
