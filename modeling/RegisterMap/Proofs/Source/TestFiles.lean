import Mathlib
import RegisterMap.Proofs.Export.TypeNames
import RegisterMap.Proofs.Source.Declarations
import RegisterMap.Proofs.Source.ResetState
import RegisterMap.Proofs.Source.TestLines

/-!
# Files of generated tests

The tests of a package are spread over a file for every module and one that declares the modules.
Modules are named after address maps and tests after registers and memories, so several address maps
may share a module, and several sites the name of a test.  No file is written twice all the same,
and no module declared twice: the module of the register model and those of the tests never have the
name of the file that declares them (`nodup_paths`).  And in the file of a module every site has a
test of its own, as the text of the file shows (`test_files_stand_apart`).
-/

namespace RegisterMap

open Lines

namespace Rendering

variable {x : Rendering} {sites : List Site} {s : Site}

/-! ## Tests of a module -/

/-- The code has one test for each site, in order, and nothing but these tests declares a function.
The tests have different names, each of which is that of its site with underscores after it. -/
structure Tests (x : Rendering) (sites : List Site) (source : Lines) : Prop where
  nodup : (functions source).Nodup
  each : List.Forall₂ (fun s name => x.siteTest s name <:+: source ∧
    ∃ count, name = withUnderscores s.testName count) sites (functions source)

lemma functions_siteTest {name : String} (hname : Unseparated name) :
    functions (x.siteTest s name) = [name] := by
  have hmark : function? "#[test]" = none := rfl
  unfold siteTest
  dsimp only
  rw [functions_cons, hmark, functions_block, function?_of_functionHead hname]
  · rfl
  · simp [functionHead]

/-- The functions in the file of a module are its tests. -/
lemma functions_testModule (hsites : ∀ s ∈ sites, Sited x s) :
    functions (x.testModule sites) = freshNames [] (sites.map Site.testName) := by
  have hheader : functions header = [] := rfl
  have huses : ∀ rest, functions ("#![allow(unused_imports)]" :: "" ::
      "use super::preload_register;" :: "use crate::reg_model::build;" ::
      s!"use crate::reg_model::{x.topModule}::*;" :: "use crate::sim::simulator;" :: rest) =
        functions rest := by
    intro rest
    simp [functions_cons, function?, afterWord?, List.isPrefixOf?]
  have hasync : functions ["use futures::executor::block_on;"] = [] := rfl
  have hruntime : functions ["use ral_runtime::\x7bFieldEnum, FieldValue, TypedBuffer\x7d;"] = [] :=
    rfl
  have htests : functions ((sites.zip (freshNames [] (sites.map Site.testName))).flatMap
      fun test => apart (x.siteTest test.1 test.2)) = freshNames [] (sites.map Site.testName) := by
    have heach : ∀ test ∈ sites.zip (freshNames [] (sites.map Site.testName)),
        functions (apart (x.siteTest test.1 test.2)) = [test.2] := fun test htest =>
      functions_siteTest (unseparated_testNames hsites (List.of_mem_zip htest).2)
    rw [functions, List.filterMap_flatMap]
    refine (List.flatMap_congr heach).trans ?_
    rw [← List.map_eq_flatMap]
    exact List.map_snd_zip (by rw [length_freshNames, List.length_map])
  unfold testModule
  dsimp only
  rw [functions_append]
  refine (congrArg (_ ++ ·) htests).trans ?_
  simp only [functions_append, functions_onlyIf, hheader, hasync, hruntime, huses,
    functions_nil, List.nil_append, ite_self]

lemma tests_testModule (hsites : ∀ s ∈ sites, Sited x s) : x.Tests sites (x.testModule sites) := by
  have hnames := functions_testModule hsites
  have hbases := forall₂_freshNames [] (sites.map Site.testName)
  rw [List.forall₂_map_left_iff, List.forall₂_iff_zip] at hbases
  refine ⟨hnames ▸ freshNames_nodup _ _, ?_⟩
  rw [hnames, List.forall₂_iff_zip]
  refine ⟨hbases.1, fun {s name} htest => ⟨?_, hbases.2 htest⟩⟩
  have htests : apart (x.siteTest s name) <:+: (sites.zip (freshNames [] (sites.map
      Site.testName))).flatMap fun test => apart (x.siteTest test.1 test.2) := by
    rw [List.flatMap_def]
    exact List.infix_of_mem_flatten (List.mem_map.2 ⟨(s, name), htest, rfl⟩)
  refine ((List.suffix_cons _ _).isInfix.trans htests).trans ?_
  unfold testModule
  exact (List.suffix_append _ _).isInfix

/-! ## The root of the tests -/

/-- The root of the tests declares the modules that it is made for, in order. -/
lemma modules_testRoot {ms : List String} (hms : ∀ m ∈ ms, Unseparated m) :
    modules (testRoot ms) = ms := by
  have hdeclared : (ms.map fun m => s!"mod {m};").filterMap module? = ms := by
    rw [List.filterMap_map]
    refine (List.filterMap_congr fun m hm => ?_).trans List.filterMap_some
    exact module?_of_declaration (hms m hm) (by simp)
  have hrest : ∀ rest : Lines, rest.filterMap module? = [] →
      (header ++ (ms.map fun m => s!"mod {m};") ++ rest).filterMap module? = ms := by
    intro rest hrest
    have hheader : header.filterMap module? = [] := rfl
    rw [List.filterMap_append, List.filterMap_append, hheader, hdeclared, hrest, List.nil_append,
      List.append_nil]
  unfold testRoot
  rw [List.append_assoc]
  exact hrest _ rfl

/-! ## Paths -/

/-- The file of the tests of a module. -/
def testPath (m : String) : String := s!"src/tests/{m}.rs"

lemma testPath_injective : Function.Injective testPath := fun _ _ h =>
  (String.append_right_inj _).1 ((String.append_left_inj _).1 h)

lemma testPath_prefix (m : String) : "src/tests/".toList.isPrefixOf (testPath m).toList = true := by
  simp [testPath, List.isPrefixOf]

/-- The files besides the tests are different, and none of them lies where the tests are. -/
lemma mainPaths (model simulator demo : Lines) :
    ((x.mainFiles model simulator demo).map Prod.fst).Nodup ∧
      ∀ path ∈ (x.mainFiles model simulator demo).map Prod.fst,
        "src/tests/".toList.isPrefixOf path.toList = false := by
  let others := ["Cargo.toml", "src/lib.rs", "src/reg_model/mod.rs", "src/sim.rs", "demos/demo.rs"]
  let path := s!"src/reg_model/{x.topModule}.rs"
  have hperm : (["Cargo.toml", "src/lib.rs", "src/reg_model/mod.rs"] ++
      path :: ["src/sim.rs", "demos/demo.rs"]).Perm (path :: others) := List.perm_middle
  have hnew : path ∉ others := by
    intro hmem
    have hroot : ∀ path ∈ others, "src/reg_model/".toList.isPrefixOf path.toList = true →
        path = "src/reg_model/" ++ "mod" ++ ".rs" := by
      decide
    have heq := hroot path hmem (by simp [path, List.isPrefixOf])
    exact x.isModule_topModule.ne_root
      ((String.append_right_inj _).1 ((String.append_left_inj _).1 heq))
  constructor
  · exact hperm.nodup_iff.2 (List.nodup_cons.2 ⟨hnew, by decide⟩)
  · intro other hother
    rcases List.mem_cons.1 (hperm.subset hother) with rfl | hother
    · simp [path, List.isPrefixOf]
    · have hothers : ∀ other ∈ others, "src/tests/".toList.isPrefixOf other.toList = false := by
        decide
      exact hothers other hother

/-- The files of a package are different, since no module of its tests is named like the file that
declares them. -/
lemma nodup_paths {model simulator demo root : Lines} {ms : List String} (source : String → Lines)
    (hms : ms.Nodup) (hmodules : ∀ m ∈ ms, IsModule m) :
    ((x.mainFiles model simulator demo ++ ("src/tests/mod.rs", root) :: ms.map fun m =>
      (testPath m, source m)).map Prod.fst).Nodup := by
  obtain ⟨hmain, houtside⟩ := x.mainPaths model simulator demo
  have htests : (("src/tests/mod.rs", root) :: ms.map fun m =>
      (testPath m, source m)).map Prod.fst = ("mod" :: ms).map testPath := by
    rw [List.map_cons, List.map_cons, List.map_map]
    rfl
  rw [List.map_append, htests, List.nodup_append]
  refine ⟨hmain, ?_, fun path hpath path' htest heq => ?_⟩
  · refine List.Nodup.map testPath_injective (List.nodup_cons.2 ⟨fun hroot => ?_, hms⟩)
    exact (hmodules "mod" hroot).ne_root rfl
  · obtain ⟨m, -, rfl⟩ := List.mem_map.1 htest
    have hinside := testPath_prefix m
    rw [← heq, houtside path hpath] at hinside
    cases hinside

/-! ## Packages -/

/-- What the files of a package are: the tests come after all others. -/
lemma package_eq_ok {package : Package} (hpackage : x.package = .ok package) :
    ∃ model simulator demo tests, x.testFiles = .ok tests ∧
      package.files = (x.mainFiles model simulator demo ++ tests).map fun (path, source) =>
        (path, source.toText) := by
  unfold Rendering.package at hpackage
  obtain ⟨model, -, hpackage⟩ := bind_eq_ok.1 hpackage
  obtain ⟨simulator, -, hpackage⟩ := bind_eq_ok.1 hpackage
  obtain ⟨demo, -, hpackage⟩ := bind_eq_ok.1 hpackage
  obtain ⟨tests, htests, hpackage⟩ := bind_eq_ok.1 hpackage
  cases hpackage
  exact ⟨model, simulator, demo, tests, htests, rfl⟩

/-- The files of the tests for some sites: the one that declares the modules, and one for each. -/
def filesOfTests (x : Rendering) (sites : List Site) : List (String × Lines) :=
  ("src/tests/mod.rs", testRoot (siteModules sites)) :: (siteModules sites).map fun m =>
    (testPath m, x.testModule (sites.filter fun s => s.module == m))

lemma testFiles_eq_ok {files : List (String × Lines)} (hfiles : x.testFiles = .ok files) :
    x.config.skipTests = true ∧ files = [] ∨
      x.config.skipTests = false ∧ ∃ sites, x.sites = .ok sites ∧ files = x.filesOfTests sites := by
  unfold testFiles at hfiles
  split at hfiles
  · next hskip =>
    cases hfiles
    exact .inl ⟨hskip, rfl⟩
  · next hskip =>
    obtain ⟨⟨root, modules⟩, htests, hfiles⟩ := bind_eq_ok.1 hfiles
    unfold tests at htests
    obtain ⟨sites, hsites, htests⟩ := bind_eq_ok.1 htests
    cases htests
    cases hfiles
    refine .inr ⟨by simpa using hskip, sites, hsites, ?_⟩
    rw [List.map_map]
    rfl

lemma isModule_of_mem_siteModules (hsites : ∀ s ∈ sites, Sited x s) {m : String}
    (hm : m ∈ siteModules sites) : IsModule m := by
  obtain ⟨s, hs, rfl⟩ := mem_siteModules_iff.1 hm
  exact (hsites s hs).module

/-- The text of the root of the tests declares each module of the sites once. -/
lemma modules_ofText (hsites : ∀ s ∈ sites, Sited x s) :
    modules (ofText (testRoot (siteModules sites)).toText) = siteModules sites := by
  have hmodules := fun m (hm : m ∈ siteModules sites) =>
    (isModule_of_mem_siteModules hsites hm).unseparated
  rw [ofText_toText (flat_testRoot fun m hm => (hmodules m hm).oneLine), modules_testRoot hmodules]

/-- The text of the file of a module has a test for each of its sites. -/
lemma tests_ofText (hx : x.Legible) (hsites : ∀ s ∈ sites, Sited x s) (m : String) :
    x.Tests (sites.filter fun s => s.module == m)
      (ofText (x.testModule (sites.filter fun s => s.module == m)).toText) := by
  have hkept : ∀ s ∈ sites.filter fun s => s.module == m, Sited x s := fun s hs =>
    hsites s (List.mem_of_mem_filter hs)
  rw [ofText_toText (flat_testModule hx hkept)]
  exact tests_testModule hkept

end Rendering

section Exports

variable [RunHash] {σ : Type} {t : RegisterTree} {c : ExportConfig} {predicate : HidePredicate σ}
  {s : σ} {plan : Plan} {package : Package}

/-- The names in a planned rendering hold no separators. -/
lemma legible_of_plan {hidden : Screen} (ht : t.Loaded)
    (hplan : hidden.plan (.ofConfig c) t = .ok plan) : (Rendering.mk t plan c).Legible where
  accessors r hr child hchild := by
    have hplans := Screen.plans_of_eq_ok ht hplan
    have hshown : child ∈ hidden.accessors r.place := hplans.children r hr ▸ hchild
    exact unseparated_accessorNames (List.of_mem_zip hshown).2
  enums e he := by
    rw [Screen.identifier_eq ht hplan (.enum he)]
    exact unseparated_camelCase e.name

/-- No file of a package is written twice, and no test gets lost.  The paths of a package differ.
Where there are tests, the file that declares their modules declares the module of every site once
and no other one, each of these has one file, and in that file each site of the module has one test,
with a name that no other function there has. -/
theorem test_files_stand_apart (ht : t.Loaded)
    (hgenerate : generateWith t c predicate s = .ok (plan, package)) :
    (package.files.map Prod.fst).Nodup ∧ (c.skipTests = false →
      ∃ sites root, (Rendering.mk t plan c).sites = .ok sites ∧
        ("src/tests/mod.rs", root) ∈ package.files ∧
        (modules (ofText root)).Nodup ∧
        (∀ m, m ∈ modules (ofText root) ↔ ∃ s ∈ sites, s.module = m) ∧
        ∀ m ∈ modules (ofText root), (package.files.map Prod.fst).count s!"src/tests/{m}.rs" = 1 ∧
          ∃ source, (s!"src/tests/{m}.rs", source) ∈ package.files ∧
            (Rendering.mk t plan c).Tests (sites.filter fun s => s.module == m) (ofText source)) := by
  obtain ⟨hide, memory, -, hrun, hpackage⟩ := generateWith_eq_ok hgenerate
  have hlegible := legible_of_plan ht (Export.plan_eq_ok ht hrun (HideAnswers.Stays.refl _))
  obtain ⟨model, simulator, demo, tests, htests, hfiles⟩ :=
    Rendering.package_eq_ok hpackage
  have hpaths : package.files.map Prod.fst =
      ((Rendering.mk t plan c).mainFiles model simulator demo ++ tests).map Prod.fst := by
    rw [hfiles, List.map_map]
    rfl
  rcases Rendering.testFiles_eq_ok htests with ⟨hskip, rfl⟩ | ⟨hskip, sites, hsites, rfl⟩
  · refine ⟨?_, fun hkept => absurd (hskip.symm.trans hkept) (by decide)⟩
    rw [hpaths, List.append_nil]
    exact (Rendering.mainPaths _ _ _).1
  · have hsited := Rendering.sited_of_mem_sites hlegible.accessors hsites
    have hnodup : (package.files.map Prod.fst).Nodup := by
      rw [hpaths]
      exact Rendering.nodup_paths _ (nodup_siteModules sites) fun m =>
        Rendering.isModule_of_mem_siteModules hsited
    have hwritten : ∀ file ∈ (Rendering.mk t plan c).filesOfTests sites,
        (file.1, file.2.toText) ∈ package.files := by
      intro file hfile
      rw [hfiles]
      exact List.mem_map_of_mem (List.mem_append_right _ hfile)
    refine ⟨hnodup, fun _ => ⟨sites, _, hsites, hwritten _ List.mem_cons_self, ?_⟩⟩
    rw [Rendering.modules_ofText hsited]
    refine ⟨nodup_siteModules sites, fun m => mem_siteModules_iff, fun m hm => ?_⟩
    have hfile := hwritten _ (List.mem_cons_of_mem _ (List.mem_map_of_mem hm))
    exact ⟨List.count_eq_one_of_mem hnodup (List.mem_map_of_mem hfile), _, hfile,
      Rendering.tests_ofText hlegible hsited m⟩

end Exports

section

attribute [local instance] Export.smallRun

/-- An export root that is named like a reserved word, and two address maps in it whose accessors
differ in underscores only, each with a register of the same name. -/
def twoMaps : Description :=
  .group .addressMap "mod" 0
    [.group .addressMap "a" 0 [.register "r" 0 [.field "x" 0 3 .readWrite []]],
      .group .addressMap "a_" 4 [.register "r" 0 [.field "y" 0 3 .readWrite []]]]

/-- The sites of the two address maps are tested in one module, which is declared once and in which
the two tests have different names. -/
theorem two_maps_share_test_module : twoMaps.tree.Loaded ∧ ∃ plan package root source,
    generateWith twoMaps.tree {} .nothing () = .ok (plan, package) ∧
      (package.files.map Prod.fst).Nodup ∧ ("src/tests/mod.rs", root) ∈ package.files ∧
      modules (ofText root) = ["mod__a"] ∧ ("src/tests/mod__a.rs", source) ∈ package.files ∧
      (functions (ofText source)).Nodup ∧ (functions (ofText source)).length = 2 := by
  have ht : twoMaps.tree.Loaded := Description.loaded_tree (by decide +kernel)
  have hplan : ∃ plan ∈ (exportPlan twoMaps.tree {} ⟨true, []⟩).toOption,
      ∃ sites ∈ (Rendering.mk twoMaps.tree plan {}).sites.toOption,
        sites.map Site.module = ["mod__a", "mod__a"] := by
    decide +kernel
  have hfree : (Hasher.ofConfig {}).CollisionFree
      (Screen.hashed (Hiding.isHidden ⟨true, []⟩ twoMaps.tree)
        (.ofConfig {}) twoMaps.tree twoMaps.tree.top) := by
    decide +kernel
  obtain ⟨plan, hmem, sites, hsites, hsited⟩ := hplan
  have hplan := exportPlan_of_mem hmem
  obtain ⟨package, hgenerate⟩ :=
    exists_generate_of_plan ht rfl rfl hplan hfree (by decide +kernel)
  obtain ⟨hpaths, htests⟩ := test_files_stand_apart ht hgenerate
  obtain ⟨sites', root, hsites', hroot, hdistinct, hdeclared, hfiles⟩ := htests rfl
  rw [hsites'] at hsites
  obtain rfl : sites' = sites := Option.some.inj hsites
  have hmodules : modules (ofText root) = ["mod__a"] := by
    refine List.perm_singleton.1 ((List.perm_ext_iff_of_nodup hdistinct (by decide)).2 fun m => ?_)
    rw [hdeclared, ← List.mem_map, hsited]
    simp
  obtain ⟨-, source, hsource, hnames, heach⟩ := hfiles "mod__a" (by rw [hmodules]; decide)
  have hpath : "src/tests/" ++ "mod__a" ++ ".rs" = "src/tests/mod__a.rs" := by decide
  have hlength : (sites'.filter fun s => s.module == "mod__a").length =
      ((sites'.map Site.module).filter (· == "mod__a")).length := by
    rw [List.filter_map, List.length_map]
    rfl
  refine ⟨ht, plan, package, root, source, hgenerate, hpaths, hroot, hmodules, hpath ▸ hsource,
    hnames, ?_⟩
  rw [← heach.length_eq, hlength, hsited]
  rfl

end

end RegisterMap
