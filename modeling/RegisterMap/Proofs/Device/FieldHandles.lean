import Mathlib
import RegisterMap.Proofs.Device.FieldWrites
import RegisterMap.Proofs.Field.Codec
import RegisterMap.Proofs.Tree.Registers

/-!
# Handles on fields

A handle on a field knows the place of the field in its register.  It reads the bits that the field
at this place covers, but it writes through the name of the field, and a name stands for the first
field that has it.  Fields of one register need not have distinct names.

A handle on a plain field that software may read and write keeps its promise, to write what it reads
and nothing else (`Field.Faithful`), exactly if no earlier field has its name
(`Register.faithful_iff`).  Otherwise the write is refused or goes to the earlier field, which
shares no bit with this one, and the field keeps its value.

This is about registers whose words lie in the address space: the accesses then find the words with
64 bits, as the bounded walk over them does (`RegisterLayout.checkedWordAddresses`).
-/

namespace RegisterMap

open Blocking

lemma Geometry.apart_of_high_lt {g h : Geometry} (hlt : g.high < h.low) : g.Apart h := by
  rintro bit ⟨⟨-, hhigh⟩, hlow, -⟩
  exact absurd (hlow.trans hhigh) (Nat.not_le.2 hlt)

/-! ## First fields of a name -/

namespace RegisterLayout

variable {r : RegisterLayout} {i : ℕ} {f g : FieldLayout}

/-- No field before the one at place `i` has the same name. -/
def NamedFirst (r : RegisterLayout) (i : ℕ) (f : FieldLayout) : Prop :=
  ∀ j < i, ∀ g, r.fields[j]? = some g → g.name ≠ f.name

/-- The first field of a name is what the name stands for. -/
lemma NamedFirst.field?_eq (h : r.NamedFirst i f) (hf : r.fields[i]? = some f) :
    r.field? f.name = some f := by
  obtain ⟨hi, hget⟩ := List.getElem?_eq_some_iff.1 hf
  refine List.find?_eq_some_iff_getElem.2 ⟨beq_self_eq_true _, i, hi, hget, fun j hj => ?_⟩
  have hne := h j hj _ (List.getElem?_eq_getElem (hj.trans hi))
  simpa using hne

/-- The name of a later field stands for an earlier one. -/
lemma exists_field?_eq (h : ¬ r.NamedFirst i f) :
    ∃ j g, j < i ∧ r.fields[j]? = some g ∧ r.field? f.name = some g := by
  unfold NamedFirst at h
  push Not at h
  obtain ⟨j, hj, g, hg, hname⟩ := h
  have hmem : g ∈ r.fields := List.mem_of_getElem? hg
  have hfound : (r.fields.find? (·.name == f.name)).isSome = true :=
    List.find?_isSome.2 ⟨g, hmem, beq_iff_eq.2 hname⟩
  obtain ⟨first, hfirst⟩ := Option.isSome_iff_exists.1 hfound
  obtain ⟨-, k, hk, hget, hbefore⟩ := List.find?_eq_some_iff_getElem.1 hfirst
  refine ⟨k, first, ?_, List.getElem?_eq_some_iff.2 ⟨hk, hget⟩, hfirst⟩
  -- the first field of the name does not come after this one
  by_contra hlate
  obtain ⟨hj', hgj⟩ := List.getElem?_eq_some_iff.1 hg
  have hother := hbefore j (lt_of_lt_of_le hj (Nat.le_of_not_lt hlate))
  rw [hgj, hname] at hother
  simp at hother

end RegisterLayout

/-! ## Reading through the bus -/

namespace Field

variable {f : Field}

/-- A handle reads the bits of the field in the value of the register. -/
lemma run_read (h : f.register.layout.Admitted) (hreadable : f.layout.access.readable = true)
    (w : World Simulator) : (Blocking.run f.read Simulator.toBus w).1 =
      f.layout.geometry.decode (f.register.layout.valueIn w.bus.contents)
        f.register.layout.width := by
  have hcheck : f.checkReadable = .ok () := if_pos hreadable
  obtain ⟨w', hread, -⟩ := Register.yields_physicalRead h w.bus.contents w rfl
  unfold Field.read
  rw [hcheck]
  change (Blocking.run (f.register.physicalRead >>= _) Simulator.toBus w).1 = _
  rw [run_bind_of_ok hread]
  cases f.layout.geometry.decode _ _ <;> rfl

/-- The handle writes what it reads: over a simulator whose reads are not overridden every value
that fits is written, is read back, and no register bit outside of the field has changed. -/
def Faithful (f : Field) : Prop :=
  ∀ w : World Simulator, (∀ address : ℕ, w.bus.overrides[address]? = none) →
    ∀ value ≤ f.layout.geometry.maxValue, ∃ w' before after,
      Blocking.run (f.write (.int value)) Simulator.toBus w = (.ok (), w') ∧
      (Blocking.run f.read Simulator.toBus w').1 = .ok value ∧
      (Blocking.run f.register.read Simulator.toBus w).1 = .ok before ∧
      (Blocking.run f.register.read Simulator.toBus w').1 = .ok after ∧
      ∀ bit, ¬ f.layout.geometry.Covers bit → after.testBit bit = before.testBit bit

end Field

namespace Register

variable {r : Register} {f : Field} {i : ℕ} {args : FieldValues} {w w' : World Simulator}

lemma run_read (h : r.layout.Admitted) (hreadable : r.layout.readable = true)
    (w : World Simulator) :
    (Blocking.run r.read Simulator.toBus w).1 = .ok (r.layout.valueIn w.bus.contents) := by
  obtain ⟨_, hread, -⟩ := yields_read h hreadable w.bus.contents w rfl
  exact congrArg Prod.fst hread

/-- What a field write merges its arguments into, and what it makes of it, are the values of the
register before and after. -/
lemma merges_valueIn (h : r.layout.Admitted) (hreadable : r.layout.readable = true)
    (hforced : ∀ address : ℕ, w.bus.overrides[address]? = none)
    (hrun : Blocking.run (r.writeFields args) Simulator.toBus w = (.ok (), w')) :
    r.layout.Merges args (r.layout.valueIn w.bus.contents) (r.layout.valueIn w'.bus.contents) := by
  obtain ⟨before, after, hbefore, hmerges, -, -, hafter⟩ := writeFields_merges h hrun
  rw [if_pos hreadable, run_read h hreadable] at hbefore
  have hafter := hafter hreadable fun address _ => hforced address
  rw [run_read h hreadable] at hafter
  rwa [Except.ok.inj hbefore, Except.ok.inj hafter]

lemma fieldAt?_eq_some (h : r.fieldAt? i = some f) :
    f.register = r ∧ r.layout.fields[i]? = some f.layout := by
  obtain ⟨layout, hlayout, rfl⟩ := Option.map_eq_some_iff.1 h
  exact ⟨rfl, hlayout⟩

end Register

namespace RegisterLayout

variable {r : RegisterLayout} {f : FieldLayout} {value bits : ℕ}

/-- A value for the field that its name stands for is accepted if it can be encoded. -/
lemma prepareWrite_singleton (hname : r.field? f.name = some f)
    (hwritable : f.access.writable = true) (hencode : f.encode (.int value) = .ok bits) :
    r.prepareWrite [(f.name, .int value)] =
      .ok (WriteMask.empty.andThen ⟨f.geometry.bitmask, bits⟩) := by
  have hfield : r.field f.name = .ok f := by
    unfold field
    rw [hname]
  have hcontribution : r.contribution (f.name, .int value) = .ok ⟨f.geometry.bitmask, bits⟩ := by
    unfold contribution
    rw [bind_of_eq_ok hfield, if_pos hwritable, bind_of_eq_ok hencode]
    rfl
  unfold prepareWrite
  rw [if_neg (by simp), List.foldlM_cons, hcontribution]
  rfl

/-- Which bits one argument decides. -/
lemma lastOn_singleton_of_field? {g : FieldLayout} {name : String} {v : FieldValue}
    (hname : r.field? name = some g) (bit : ℕ) :
    r.lastOn [(name, v)] bit = if g.geometry.Covers bit then some (g, v) else none := by
  rw [lastOn_singleton, argumentOn, hname, Option.bind_some]

end RegisterLayout

namespace Register

variable {r : Register} {f : Field} {i : ℕ}

/-- A handle on the first field of a name is faithful. -/
theorem faithful_of_namedFirst (h : r.layout.Admitted) (hf : r.fieldAt? i = some f)
    (hplain : f.layout.encoding = none) (haccess : f.layout.access = .readWrite)
    (hfirst : r.layout.NamedFirst i f.layout) : f.Faithful := by
  obtain ⟨rfl, hplace⟩ := fieldAt?_eq_some hf
  intro w hforced value hvalue
  have hmem : f.layout ∈ f.register.layout.fields := List.mem_of_getElem? hplace
  have hname := hfirst.field?_eq hplace
  have hreadable : f.register.layout.readable = true :=
    List.any_eq_true.2 ⟨f.layout, hmem, by rw [haccess]; rfl⟩
  -- the write is accepted
  obtain ⟨bits, hbits⟩ := Geometry.exists_encode_of_le hvalue
  have hencode : f.layout.encode (.int value) = .ok bits := by
    unfold FieldLayout.encode
    rw [hplain]
    exact hbits
  have hprepared := RegisterLayout.prepareWrite_singleton hname (by rw [haccess]; rfl) hencode
  have hcomplete : f.register.layout.checkComplete [(f.layout.name, .int value)] = .ok () :=
    if_pos (by rw [hreadable]; rfl)
  obtain ⟨w', hrun, -⟩ := yields_writeFields h hprepared hcomplete w.bus.contents w rfl
  -- and merges its value
  have hmerges := merges_valueIn h hreadable hforced hrun
  refine ⟨w', _, _, hrun, ?_, run_read h hreadable w, run_read h hreadable w', fun bit hbit => ?_⟩
  · rw [Field.run_read h (by rw [haccess]; rfl)]
    refine (h.within _ hmem).decode_eq_of_bits h.sizes.width_le hbits (h.valueIn_le _) ?_
    intro bit hbit
    obtain ⟨bits', hencode', heq⟩ := hmerges.given bit f.layout (.int value) (by
      rw [RegisterLayout.lastOn_singleton_of_field? hname, if_pos hbit])
    rw [heq, Except.ok.inj (hencode'.symm.trans hencode)]
  · refine hmerges.kept bit ?_
    rw [RegisterLayout.lastOn_singleton_of_field? hname, if_neg hbit]

/-- A write through a handle whose name stands for another field leaves its own field alone. -/
lemma read_eq_of_write (h : r.layout.Admitted)
    (hapart : r.layout.fields.Pairwise fun f g => f.geometry.Apart g.geometry)
    (hf : r.fieldAt? i = some f) (hreadable : f.layout.access.readable = true)
    (hlate : ¬ r.layout.NamedFirst i f.layout) {w w' : World Simulator}
    (hforced : ∀ address : ℕ, w.bus.overrides[address]? = none) {v : FieldValue}
    (hrun : Blocking.run (f.write v) Simulator.toBus w = (.ok (), w')) :
    (Blocking.run f.read Simulator.toBus w').1 = (Blocking.run f.read Simulator.toBus w).1 := by
  obtain ⟨rfl, hplace⟩ := fieldAt?_eq_some hf
  have hmem : f.layout ∈ f.register.layout.fields := List.mem_of_getElem? hplace
  obtain ⟨j, g, hj, hg, hname⟩ := RegisterLayout.exists_field?_eq hlate
  have hdisjoint : g.geometry.Apart f.layout.geometry := by
    obtain ⟨hj', rfl⟩ := List.getElem?_eq_some_iff.1 hg
    obtain ⟨hi, hget⟩ := List.getElem?_eq_some_iff.1 hplace
    rw [← hget]
    exact List.pairwise_iff_getElem.1 hapart j i hj' hi hj
  have hreads : f.register.layout.readable = true :=
    List.any_eq_true.2 ⟨f.layout, hmem, hreadable⟩
  have hmerges := merges_valueIn h hreads hforced hrun
  -- the bits of this field are none of those that are written
  have hwithin := h.within _ hmem
  rw [Field.run_read h hreadable, Field.run_read h hreadable]
  obtain ⟨bits, hbits⟩ : ∃ bits, f.layout.geometry.decode
      (f.register.layout.valueIn w.bus.contents) f.register.layout.width = .ok bits :=
    ⟨_, Geometry.decode_eq_ok_of_le (h.valueIn_le _)⟩
  rw [hbits]
  refine hwithin.decode_eq_of_bits h.sizes.width_le
    (hwithin.encode_of_decode h.sizes.width_le hbits) (h.valueIn_le _) fun bit hbit => ?_
  have hout : ¬ g.geometry.Covers bit := fun hin => hdisjoint bit ⟨hin, hbit⟩
  rw [hmerges.kept bit (by rw [RegisterLayout.lastOn_singleton_of_field? hname, if_neg hout]),
    Nat.testBit_and, hwithin.testBit_bitmask h.sizes.width_le, decide_eq_true hbit, Bool.and_true]

/-- The words of a register in the address space are found, and a handle on a plain field is
faithful exactly if no earlier field has the name of the field. -/
theorem faithful_iff (h : r.layout.Admitted) (hwords : r.layout.Addressable)
    (hapart : r.layout.fields.Pairwise fun f g => f.geometry.Apart g.geometry)
    (hf : r.fieldAt? i = some f) (hplain : f.layout.encoding = none)
    (haccess : f.layout.access = .readWrite) :
    r.layout.checkedWordAddresses = .ok r.layout.wordAddresses ∧
      (f.Faithful ↔ r.layout.NamedFirst i f.layout) := by
  refine ⟨r.layout.checkedWordAddresses_ends.ends hwords,
    fun hfaithful => ?_, faithful_of_namedFirst h hf hplain haccess⟩
  by_contra hlate
  have hreadable : f.layout.access.readable = true := by rw [haccess]; rfl
  have hwithin : f.layout.geometry.Within r.layout.width :=
    h.within _ (List.mem_of_getElem? (fieldAt?_eq_some hf).2)
  have hone : 1 ≤ f.layout.geometry.maxValue := by
    have hpos := hwithin.width_pos
    have hwidth : f.layout.geometry.low + f.layout.geometry.width ≤ maxValueWidth :=
      hwithin.width_le.trans h.sizes.width_le
    exact le_valueMask_of_testBit (by omega) fun bit hbit =>
      Nat.testBit_lt_two_pow (Nat.one_lt_two_pow (by omega))
  -- the field still reads as before, whichever value was written
  have hread : ∀ value ≤ f.layout.geometry.maxValue,
      (Blocking.run f.read Simulator.toBus ⟨.new, LockForest.empty, []⟩).1 = .ok value := by
    intro value hvalue
    have hforced : ∀ address : ℕ, Simulator.new.overrides[address]? = none :=
      fun address => Std.HashMap.getElem?_empty
    obtain ⟨w', -, -, hrun, hback, -⟩ := hfaithful ⟨.new, LockForest.empty, []⟩ hforced value hvalue
    rw [← hback, read_eq_of_write h hapart hf hreadable hlate hforced hrun]
  cases (hread 0 (Nat.zero_le _)).symm.trans (hread 1 hone)

/-- Both handles of a register with a reversed field and one that reaches into the second word. -/
theorem straddled_is_faithful :
    straddled.layout.Admitted ∧ straddled.layout.Addressable ∧
      straddled.layout.checkedWordAddresses = .ok [0x10, 0x12] ∧
      straddled.layout.fields.Pairwise (fun f g => f.geometry.Apart g.geometry) ∧
      ∃ mode level, straddled.fieldAt? 0 = some mode ∧ straddled.fieldAt? 1 = some level ∧
        mode.layout.encoding = none ∧ mode.layout.access = .readWrite ∧
        level.layout.encoding = none ∧ level.layout.access = .readWrite ∧
        mode.Faithful ∧ level.Faithful := by
  have hapart : straddled.layout.fields.Pairwise fun f g => f.geometry.Apart g.geometry :=
    List.pairwise_pair.2 (Geometry.apart_of_high_lt (by decide))
  have hspace : straddled.layout.Addressable := by decide
  obtain ⟨hwords, hmode⟩ :=
    faithful_iff (i := 0) admitted_straddled hspace hapart rfl rfl rfl
  obtain ⟨-, hlevel⟩ := faithful_iff (i := 1) admitted_straddled hspace hapart rfl rfl rfl
  refine ⟨admitted_straddled, hspace, hwords, hapart, _, _, rfl, rfl, rfl, rfl, rfl, rfl, ?_, ?_⟩
  · exact hmode.2 fun j hj => absurd hj (Nat.not_lt_zero j)
  · refine hlevel.2 fun j hj g hg => ?_
    obtain rfl : j = 0 := Nat.lt_one_iff.1 hj
    cases hg
    decide

/-- A register with two fields of one name. -/
def namesakes : Register where
  layout :=
    { name := "top.r"
      address := 0x10
      width := 8
      accessWidth := 8
      fields := [⟨"f", ⟨0, 4, false⟩, .readWrite, none, none⟩,
        ⟨"f", ⟨4, 4, false⟩, .readWrite, none, none⟩] }
  lock := 0

lemma admitted_namesakes : namesakes.layout.Admitted := by
  have hsizes : ({ (default : Attributes) with
      kind := .register, registerWidth := some 8, accessWidth := some 8 }).toRegister
        "top.r" = .ok ⟨8, 8⟩ := rfl
  refine RegisterLayout.admitted_of_loaded hsizes ?_
  simp only [namesakes, List.forall_mem_cons, List.not_mem_nil, false_implies, implies_true,
    and_true]
  exact ⟨⟨"top.r.f",
      { (default : Attributes) with kind := .field, msb := some 3, lsb := some 0 }, _, rfl, rfl⟩,
    ⟨"top.r.f",
      { (default : Attributes) with kind := .field, msb := some 7, lsb := some 4 }, _, rfl, rfl⟩⟩

/-- The handle on the second field writes the first one. -/
theorem second_namesake_writes_first :
    namesakes.layout.Admitted ∧ namesakes.layout.Addressable ∧
    namesakes.layout.fields.Pairwise (fun f g => f.geometry.Apart g.geometry) ∧
    ∃ f, namesakes.fieldAt? 1 = some f ∧ f.layout.geometry = ⟨4, 4, false⟩ ∧ ¬ f.Faithful ∧
      ∃ w', Blocking.run (f.write (.int 5)) Simulator.toBus ⟨.new, LockForest.empty, []⟩ =
          (.ok (), w') ∧
        w'.trace = [.read 0x10 8 8, .write 0x10 8 8 5] ∧
        (Blocking.run f.read Simulator.toBus w').1 = .ok 0 := by
  have hapart : namesakes.layout.fields.Pairwise fun f g => f.geometry.Apart g.geometry :=
    List.pairwise_pair.2 (Geometry.apart_of_high_lt (by decide))
  set w : World Simulator := ⟨.new, LockForest.empty, []⟩ with hw
  set f : Field := ⟨namesakes, ⟨"f", ⟨4, 4, false⟩, .readWrite, none, none⟩⟩ with hf
  have hforced : ∀ address : ℕ, w.bus.overrides[address]? = none :=
    fun address => Std.HashMap.getElem?_empty
  have hprepared : namesakes.layout.prepareWrite [("f", .int 5)] = .ok ⟨0xf, 5⟩ := by decide
  have hempty : namesakes.layout.valueIn w.bus.contents = 0 := by
    rw [show w.bus.contents = _ from Simulator.contents_new true]
    decide
  obtain ⟨w', hrun, hcontents⟩ :=
    yields_writeFields admitted_namesakes hprepared rfl w.bus.contents w rfl
  obtain ⟨htrace, -⟩ := issues_writeFields admitted_namesakes hprepared rfl w.bus.contents w rfl
  have hbase : namesakes.baseIn w.bus.contents = 0 := hempty
  rw [hbase] at hcontents htrace
  have hread : (Blocking.run f.read Simulator.toBus w').1 = .ok 0 := by
    have hvalue : namesakes.layout.valueIn w'.bus.contents = 5 := by
      rw [hcontents]
      exact admitted_namesakes.valueIn_stores (by decide) fun address _ => hforced address
    rw [Field.run_read admitted_namesakes rfl, show f.register = namesakes from rfl, hvalue]
    decide
  refine ⟨admitted_namesakes, by decide, hapart, f, rfl, rfl, fun hfaithful => ?_, w', hrun, ?_,
    hread⟩
  · obtain ⟨w'', -, -, hrun', hback, -⟩ := hfaithful w hforced 5 (by decide)
    obtain rfl : w' = w'' := congrArg Prod.snd (hrun.symm.trans hrun')
    cases hread.symm.trans hback
  · rw [hrun] at htrace
    exact htrace

end Register

end RegisterMap
