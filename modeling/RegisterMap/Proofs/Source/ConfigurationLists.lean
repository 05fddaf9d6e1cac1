import Mathlib
import RegisterMap.Proofs.Export.Documentation
import RegisterMap.Proofs.Results
import RegisterMap.Proofs.Source.Descent
import RegisterMap.Source.Package

/-!
# The lists of a configuration

A configuration lists the properties that it exports and the patterns of the paths that it hides.
Neither the order of these lists nor how often an entry stands in them makes a difference: the
properties are put in order twice, for the hashes and for the constants, and a path is hidden when
any of the patterns fits it.  So a configuration whose lists have the same entries plans the same
types and generates the same text, or fails with the same fault
(`ExportConfig.generateWith_relisted`).

This is about lists without an entry that is refused: a fault names the first such entry.
-/

namespace RegisterMap

/-! ## Patterns -/

namespace Hiding

variable {h k : Hiding} {t : RegisterTree} {c : HideConfig} {patterns : List String}

lemma mapM_wholePath? (hpatterns : ∀ pattern ∈ patterns, (wholePath? pattern).isSome) :
    (patterns.mapM fun p => match wholePath? p with
      | some pattern => .ok pattern
      | none => .error (.invalidPattern p)) =
      (.ok (patterns.filterMap wholePath?) : Except ExportFault (List Pattern)) := by
  induction patterns with
  | nil => rfl
  | cons p rest ih =>
    obtain ⟨pattern, hp⟩ := Option.isSome_iff_exists.1 (hpatterns p List.mem_cons_self)
    rw [List.mapM_cons, ih fun q hq => hpatterns q (List.mem_cons_of_mem _ hq),
      List.filterMap_cons_some hp, hp]
    rfl

/-- Patterns that are all well written are read one after the other. -/
lemma ofConfig_eq_ok (hpatterns : ∀ pattern ∈ c.patterns, (wholePath? pattern).isSome) :
    ofConfig c = .ok ⟨c.honorProperty, c.patterns.filterMap wholePath?⟩ :=
  bind_of_eq_ok (mapM_wholePath? hpatterns)

/-- Whether a node is hidden depends on which patterns there are, not on their list. -/
lemma hidesNode_congr (hproperty : h.honorProperty = k.honorProperty)
    (hpatterns : ∀ pattern, pattern ∈ h.patterns ↔ pattern ∈ k.patterns) (p : Place) :
    h.hidesNode t p = k.hidesNode t p := by
  have hany (l : Hiding) : (!l.patterns.isEmpty && l.patterns.any (·.occursIn (t.path p).toList)) =
      l.patterns.any (·.occursIn (t.path p).toList) := by
    cases l.patterns <;> rfl
  unfold hidesNode
  rw [hany, hany, hproperty]
  refine congrArg _ (Bool.eq_iff_iff.2 ?_)
  simp only [List.any_eq_true, hpatterns]

end Hiding

/-! ## Questions -/

section Questions

variable {σ : Type} {h k : Hiding} {t : RegisterTree} {predicate : HidePredicate σ} {hasher : Hasher}

/-- All questions about nodes come down to whether the configuration hides a node. -/
lemma askNode_congr (hsame : ∀ p, h.hidesNode t p = k.hidesNode t p) :
    askNode h predicate t = askNode k predicate t := by
  funext p
  unfold askNode
  rw [hsame p]

lemma askAll_congr (hsame : ∀ p, h.hidesNode t p = k.hidesNode t p) :
    askAll h predicate t = askAll k predicate t := by
  funext ps
  induction ps with
  | nil => rfl
  | cons p rest ih => rw [askAll, askAll, askNode_congr hsame, ih]

lemma askHidden_congr (hsame : ∀ p, h.hidesNode t p = k.hidesNode t p) :
    askHidden h predicate t = askHidden k predicate t := by
  funext p
  unfold askHidden
  rw [askNode_congr hsame, askAll_congr hsame]

lemma askVisible_congr (hsame : ∀ p, h.hidesNode t p = k.hidesNode t p) :
    askVisible h predicate t = askVisible k predicate t := by
  funext ps
  induction ps with
  | nil => rfl
  | cons p rest ih => rw [askVisible, askVisible, askHidden_congr hsame, ih]

namespace Export

lemma children_congr (hsame : ∀ p, h.hidesNode t p = k.hidesNode t p) :
    (Export.mk t h predicate hasher).children = (Export.mk t k predicate hasher).children := by
  funext p
  unfold children
  rw [askVisible_congr hsame]

/-- The plan of an export depends on the configuration only by the nodes that it hides. -/
lemma plan_congr (hsame : ∀ p, h.hidesNode t p = k.hidesNode t p) :
    (Export.mk t h predicate hasher).plan = (Export.mk t k predicate hasher).plan := by
  have hqueries :
      (Export.mk t h predicate hasher).queries = (Export.mk t k predicate hasher).queries := by
    unfold queries
    rw [children_congr hsame]
  unfold plan isHidden
  rw [hqueries, askHidden_congr hsame]

end Export

end Questions

/-! ## Properties -/

namespace ExportConfig

/-- The configuration with these lists of properties and patterns in place of its own. -/
def relisted (c : ExportConfig) (properties patterns : List String) : ExportConfig :=
  { c with properties, hide := { c.hide with patterns } }

variable {c : ExportConfig} {properties patterns : List String}

/-- Properties in order, each once, are determined by which they are. -/
lemma propertyNames_relisted (hproperties : ∀ name, name ∈ properties ↔ name ∈ c.properties) :
    (c.relisted properties patterns).propertyNames = c.propertyNames := by
  refine List.Pairwise.eq_of_mem_iff (pairwise_foldl_insertName _ .nil)
    (pairwise_foldl_insertName _ .nil) fun name => ?_
  rw [mem_propertyNames, mem_propertyNames]
  exact hproperties name

end ExportConfig

namespace Rendering

variable {x : Rendering} {properties patterns : List String}
  (hnames : (x.config.relisted properties patterns).propertyNames = x.config.propertyNames)

/-- The rendering with these lists in its configuration. -/
def relisted (x : Rendering) (properties patterns : List String) : Rendering :=
  { x with config := x.config.relisted properties patterns }

include hnames in
lemma propertyConstants_relisted :
    (x.relisted properties patterns).propertyConstants = x.propertyConstants := by
  unfold propertyConstants relisted
  rw [hnames]

include hnames in
lemma recordSource_relisted : (x.relisted properties patterns).recordSource = x.recordSource := by
  funext r
  unfold recordSource fieldSource registerSource memorySource containerSource
  rw [propertyConstants_relisted hnames]
  rfl

include hnames in
lemma modelSource_relisted : (x.relisted properties patterns).modelSource = x.modelSource := by
  unfold modelSource
  rw [recordSource_relisted hnames]
  rfl

-- A walk unfolds only for a given amount of fuel, so the walks are compared round by round.
lemma resetsIn_relisted : (x.relisted properties patterns).resetsIn = x.resetsIn := by
  funext fuel
  rw [resetsIn_eq_rounds, resetsIn_eq_rounds]
  rfl

lemma sitesIn_relisted : (x.relisted properties patterns).sitesIn = x.sitesIn := by
  funext fuel
  rw [sitesIn_eq_rounds, sitesIn_eq_rounds]
  rfl

lemma simulatorSource_relisted :
    (x.relisted properties patterns).simulatorSource = x.simulatorSource := by
  unfold simulatorSource resetValues
  rw [resetsIn_relisted]
  rfl

lemma testFiles_relisted : (x.relisted properties patterns).testFiles = x.testFiles := by
  unfold testFiles tests sites
  rw [sitesIn_relisted]
  rfl

include hnames in
/-- The lists of a configuration matter to the text only by the exported properties in order. -/
lemma package_relisted : (x.relisted properties patterns).package = x.package := by
  unfold package
  rw [modelSource_relisted hnames, simulatorSource_relisted, testFiles_relisted]
  rfl

end Rendering

/-! ## Packages -/

namespace ExportConfig

section Relisted

variable [RunHash] {σ : Type} {t : RegisterTree} {predicate : HidePredicate σ} {s : σ}
  {c : ExportConfig} {properties patterns : List String}

/-- The lists of a configuration act as sets: with the same properties and the same patterns in any
order, each as often as it likes, the plan and the package are the same, or the fault is. -/
theorem generateWith_relisted (hproperties : ∀ name, name ∈ properties ↔ name ∈ c.properties)
    (hpatterns : ∀ pattern, pattern ∈ patterns ↔ pattern ∈ c.hide.patterns)
    (hvalid : c.validate = .ok ())
    (hwritten : ∀ pattern ∈ c.hide.patterns, (Hiding.wholePath? pattern).isSome) :
    generateWith t (c.relisted properties patterns) predicate s = generateWith t c predicate s := by
  have hvalid' : (c.relisted properties patterns).validate = .ok () :=
    validate_eq_ok_iff.2 fun name hname =>
      validate_eq_ok_iff.1 hvalid name ((hproperties name).1 hname)
  have hwritten' : ∀ pattern ∈ (c.relisted properties patterns).hide.patterns,
      (Hiding.wholePath? pattern).isSome :=
    fun pattern hpattern => hwritten pattern ((hpatterns pattern).1 hpattern)
  have hnames : (c.relisted properties patterns).propertyNames = c.propertyNames :=
    propertyNames_relisted hproperties
  have hhasher : Hasher.ofConfig (c.relisted properties patterns) = .ofConfig c := by
    unfold Hasher.ofConfig
    rw [hnames]
    rfl
  -- The two sides read their patterns in different orders, but hide the same nodes.
  have hplan : (Export.mk t ⟨c.hide.honorProperty, patterns.filterMap Hiding.wholePath?⟩ predicate
        (.ofConfig c)).plan =
      (Export.mk t ⟨c.hide.honorProperty, c.hide.patterns.filterMap Hiding.wholePath?⟩ predicate
        (.ofConfig c)).plan := by
    refine Export.plan_congr (Hiding.hidesNode_congr rfl fun pattern => ?_)
    simp only [List.mem_filterMap, hpatterns]
  have hpackage (plan : Plan) : (Rendering.mk t plan (c.relisted properties patterns)).package =
      (Rendering.mk t plan c).package :=
    Rendering.package_relisted (x := ⟨t, plan, c⟩) hnames
  unfold generateWith
  rw [hvalid', hvalid, Hiding.ofConfig_eq_ok hwritten', Hiding.ofConfig_eq_ok hwritten, hhasher]
  change (((Export.mk t ⟨c.hide.honorProperty, patterns.filterMap Hiding.wholePath?⟩ predicate
    (.ofConfig c)).plan.run (.empty s)).1 >>= _) = _
  rw [hplan]
  simp only [hpackage]
  rfl

end Relisted

section

attribute [local instance] Export.smallRun

/-- A configuration that exports two properties and hides a register and what is spare. -/
def twoOfEach : ExportConfig where
  properties := ["name", "owner"]
  hide := { patterns := ["top\\.a", "top\\.(spare|unused)"] }

/-- The entries may be listed the other way round, and one of them twice. -/
theorem entries_in_other_order :
    let listed := twoOfEach.relisted ["owner", "name", "owner"]
      ["top\\.(spare|unused)", "top\\.a", "top\\.a"]
    listed ≠ twoOfEach ∧ generate Export.bothNamed listed = generate Export.bothNamed twoOfEach := by
  refine ⟨by decide +kernel, generateWith_relisted (fun name => ?_) (fun pattern => ?_) rfl ?_⟩
  · simp only [twoOfEach, List.mem_cons, List.not_mem_nil]
    tauto
  · simp only [twoOfEach, List.mem_cons, List.not_mem_nil]
    tauto
  · decide +kernel

end

end ExportConfig

end RegisterMap
