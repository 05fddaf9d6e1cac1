import Mathlib
import RegisterMap.Proofs.Source.Sites
import RegisterMap.Proofs.Source.Texts
import RegisterMap.Source.Tests

/-!
# Lines of generated tests

Everything in a test that comes from a description is an accessor, an identifier, a number or the
quoted form of a name.  None of them holds a line feed, so every line of a test is one line of its
file (`Rendering.flat_testModule`), and what the file declares can be read off its text.
-/

namespace RegisterMap

open Text Lines

lemma Unseparated.oneLine {name : String} (hname : Unseparated name) : OneLine name :=
  hname.notMem (by decide) (by decide)

/-! ## Members of enumerations -/

lemma unseparated_of_mem_distinctVariants {taken : List String} {ms : List (String × ℕ)}
    (hms : ∀ m ∈ ms, Unseparated m.1) {variant : String}
    (hv : variant ∈ distinctVariants taken ms) : Unseparated variant := by
  induction ms generalizing taken with
  | nil => cases hv
  | cons m rest ih =>
    rw [List.forall_mem_cons] at hms
    rw [distinctVariants] at hv
    rcases List.mem_cons.1 hv with rfl | hv
    · split
      · exact (hms.1.append (by decide)).append (unseparated_toString m.2)
      · exact hms.1
    · exact ih hms.2 hv

lemma unseparated_of_mem_variants {e : Enumeration} {variant : String}
    (hv : variant ∈ e.variants) : Unseparated variant := by
  refine unseparated_of_mem_distinctVariants (fun m hm => ?_) hv
  obtain ⟨entry, -, rfl⟩ := List.mem_map.1 hm
  exact unseparated_camelCase entry.name

namespace Rendering

variable {x : Rendering} {sites : List Site} {s : Site}

/-- The names in a rendering hold no separators: the accessors in its types, and the identifiers of
its enumerations. -/
structure Legible (x : Rendering) : Prop where
  accessors : x.NamesAccessors
  enums : ∀ e ∈ x.plan.enums, Unseparated e.identifier

/-! ## Registers -/

lemma oneLine_await (x : Rendering) : OneLine x.flavor.await := by
  cases x.flavor with
  | blocking => decide
  | asynchronous => decide

lemma enumOf?_mem {plan : Plan} {id : ℕ} {e : EnumRecord} (h : plan.enumOf? id = some e) :
    e ∈ plan.enums := by
  obtain ⟨hash, -, he⟩ := Option.bind_eq_some_iff.1 h
  exact List.mem_of_find?_eq_some he

/-- A field is tested with the variants of an enumeration of the plan, or with literals. -/
lemma code_of_mem_fieldValues {p : Place} {f : FieldDetail} {v : String × ℕ}
    (hv : v ∈ x.fieldValues p f) :
    (∃ e ∈ x.plan.enums, ∃ variant ∈ e.encoding.enumeration.variants,
      v.1 = e.identifier ++ "::" ++ variant) ∨ ∃ n, v.1 = constant n ++ "_u128" := by
  unfold fieldValues at hv
  split at hv
  · next e he =>
    obtain ⟨⟨variant, entry⟩, hmem, hv⟩ := List.mem_filterMap.1 hv
    obtain ⟨raw, -, rfl⟩ := Option.map_eq_some_iff.1 hv
    exact .inl ⟨e, enumOf?_mem he, variant, (List.of_mem_zip hmem).1, rfl⟩
  · obtain ⟨n, -, hv⟩ := List.mem_filterMap.1 hv
    obtain ⟨raw, -, rfl⟩ := Option.map_eq_some_iff.1 hv
    exact .inr ⟨n, rfl⟩

lemma oneLine_of_mem_fieldValues (hx : x.Legible) {p : Place} {f : FieldDetail} {v : String × ℕ}
    (hv : v ∈ x.fieldValues p f) : OneLine v.1 := by
  obtain ⟨e, he, variant, hvariant, hcode⟩ | ⟨n, hcode⟩ := code_of_mem_fieldValues hv
  · have hname := (unseparated_of_mem_variants hvariant).oneLine
    simp only [hcode, oneLine_append_iff]
    exact ⟨⟨(hx.enums e he).oneLine, by decide⟩, hname⟩
  · rw [hcode]
    exact oneLine_append_iff.2 ⟨oneLine_constant n, by decide⟩

lemma flat_fieldTest {wide : Bool} {accessor : String} {f : FieldDetail} {v : String × ℕ}
    (haccessor : OneLine accessor) (hv : OneLine v.1) : Flat (x.fieldTest wide accessor f v) := by
  have hawait := x.oneLine_await
  have hconstant := oneLine_constant
  unfold OneLine at *
  unfold fieldTest
  dsimp only
  split <;> simp [OneLine, *]

lemma flat_writeOnlyTest (hx : x.Legible) {wide : Bool}
    {fields : List (Place × String × FieldDetail)}
    {pick : List (String × ℕ) → Option (String × ℕ)} (hpick : ∀ l, ∀ v ∈ pick l, v ∈ l) :
    Flat (x.writeOnlyTest wide fields pick) := by
  have hawait := x.oneLine_await
  have hconstant := oneLine_constant
  unfold writeOnlyTest
  extract_lets chosen arguments expected
  have hchosen : ∀ argument ∈ chosen.map (·.1), OneLine argument := by
    rw [List.forall_mem_map]
    intro argument hargument
    obtain ⟨⟨child, accessor, f⟩, -, hargument⟩ := List.mem_filterMap.1 hargument
    obtain ⟨v, hv, rfl⟩ := Option.map_eq_some_iff.1 hargument
    have hname := oneLine_quoted child.node.instName
    have hvalue := oneLine_of_mem_fieldValues hx (hpick _ v hv)
    unfold OneLine at *
    dsimp only
    split <;> simp [*]
  have harguments : OneLine arguments := by
    intro hmem
    rcases mem_intercalate hmem with hmem | ⟨argument, hargument, hmem⟩
    · exact absurd hmem (by decide)
    · exact hchosen argument hargument hmem
  unfold OneLine at *
  simp [OneLine, *]

lemma flat_registerTest (hx : x.Legible) {p : Place} {r : RegisterDetail}
    (hp : ∃ r ∈ x.plan.records, r.place = p) : Flat (x.registerTest p r) := by
  unfold registerTest
  dsimp only
  split
  · refine flat_flatMap fun f hf => flat_flatMap fun v hv => ?_
    obtain ⟨child, hchild, hf⟩ := List.mem_filterMap.1 hf
    obtain ⟨field, -, rfl⟩ := Option.map_eq_some_iff.1 hf
    obtain ⟨record, hrecord, rfl⟩ := hp
    exact flat_fieldTest (hx.accessors record hrecord child hchild).oneLine
      (oneLine_of_mem_fieldValues hx hv)
  · rw [flat_append_iff]
    exact ⟨flat_writeOnlyTest hx fun _ _ => List.mem_of_head?,
      flat_writeOnlyTest hx fun _ _ => List.mem_of_getLast?⟩

/-! ## Memories -/

/-- The words of an entry are shown as numbers. -/
lemma flat_map_onesOfEntry {m : MemoryDetail} {line : String × String → String}
    (hline : ∀ a b : ℕ, OneLine (line (constant a, constant b))) :
    Flat ((onesOfEntry m).map line) := by
  refine List.forall_mem_map.2 fun word hword => ?_
  obtain ⟨i, -, rfl⟩ := List.mem_map.1 hword
  exact hline _ _

lemma flat_memoryTest (x : Rendering) (m : MemoryDetail) : Flat (x.memoryTest m) := by
  have hawait := x.oneLine_await
  have hconstant := oneLine_constant
  have hdigits := notMem_toDigits
  unfold OneLine at *
  unfold memoryTest
  cases m.access with
  | readWrite => cases x.config.typedBlocks <;> simp [OneLine, *]
  | readOnly =>
    have hwords : Flat ((onesOfEntry m).map fun word =>
        "sim.preload(mem.memory().spec().address + " ++ word.1 ++ ", " ++ word.2 ++ ");") :=
      flat_map_onesOfEntry fun a b => by simp [OneLine, *]
    simp [OneLine, *]
  | writeOnly =>
    have hwords : Flat ((onesOfEntry m).map fun word =>
        "assert_eq!(sim.peek(mem.memory().spec().address + " ++ word.1 ++ "), " ++ word.2 ++
          ");") :=
      flat_map_onesOfEntry fun a b => by simp [OneLine, *]
    simp [OneLine, *]

/-! ## Tests -/

lemma flat_siteBody (hx : x.Legible) (hs : Sited x s) : Flat (x.siteBody s) := by
  unfold siteBody
  split
  · exact flat_registerTest hx hs.place
  · exact x.flat_memoryTest _
  · exact flat_nil

lemma flat_siteWay {target : String} {body : Lines} (htarget : OneLine target) (hbody : Flat body)
    {steps : List SiteStep} (hsteps : ∀ step ∈ steps, Unseparated step.accessor) {current : String}
    (hcurrent : OneLine current) (i : ℕ) : Flat (siteWay target body current i steps) := by
  induction steps generalizing current i with
  | nil => exact hbody
  | cons step rest ih =>
    rw [List.forall_mem_cons] at hsteps
    have haccessor := hsteps.1.oneLine
    have hname : OneLine (if rest.isEmpty then target else s!"n{i}") := by
      split
      · exact htarget
      · exact oneLine_append_iff.2 ⟨by decide, oneLine_toString i⟩
    have hinner := ih hsteps.2 hname (i + 1)
    rw [siteWay]
    generalize (if rest.isEmpty then target else s!"n{i}") = name at hname hinner ⊢
    unfold OneLine at *
    split <;> simp [OneLine, *]

lemma flat_siteTest (hx : x.Legible) (hs : Sited x s) {name : String} (hname : OneLine name) :
    Flat (x.siteTest s name) := by
  have hway : Flat (siteWay (if s.isMemory then "mem" else "reg") (x.siteBody s) "dut" 0 s.steps) :=
    flat_siteWay (by split <;> decide) (flat_siteBody hx hs) hs.accessors (by decide) 0
  unfold OneLine at *
  unfold siteTest
  dsimp only
  split <;> simp [OneLine, *]

/-- The file of the tests of a module holds no line feed in a line. -/
theorem flat_testModule (hx : x.Legible) (hsites : ∀ s ∈ sites, Sited x s) :
    Flat (x.testModule sites) := by
  have htop : OneLine x.topModule := x.isModule_topModule.unseparated.oneLine
  have hheader : Flat header := by decide
  have htests : ∀ test ∈ sites.zip (freshNames [] (sites.map Site.testName)),
      Flat (apart (x.siteTest test.1 test.2)) := by
    intro test htest
    obtain ⟨hs, hname⟩ := List.of_mem_zip htest
    rw [flat_apart_iff]
    exact flat_siteTest hx (hsites _ hs) (unseparated_testNames hsites hname).oneLine
  unfold testModule
  refine flat_append_iff.2 ⟨?_, flat_flatMap htests⟩
  unfold OneLine at *
  simp [OneLine, *]

/-- Neither does the file that declares the modules. -/
theorem flat_testRoot {modules : List String} (hmodules : ∀ m ∈ modules, OneLine m) :
    Flat (testRoot modules) := by
  have hdeclared : Flat (modules.map fun m => "mod " ++ m ++ ";") := by
    refine List.forall_mem_map.2 fun m hm => ?_
    have hm := hmodules m hm
    unfold OneLine at *
    simp [hm]
  have hheader : Flat header := by decide
  unfold testRoot
  simp [OneLine, *]

end Rendering

end RegisterMap
