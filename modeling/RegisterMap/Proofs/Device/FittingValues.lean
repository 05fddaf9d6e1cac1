import Mathlib
import RegisterMap.Proofs.Device.VerifiedSessions
import RegisterMap.Proofs.Field.Codec

/-!
# Values that are read fit

A simulator may hold any words, and reads of it may be overridden with any others.  What software
reads of a register, an array or a memory fits all the same: every access cuts a word to its width,
and the words of an entry fill no more than the entry (`Transfer.Whole.valueIn_le`).

Three checks further on can therefore not fail.  The fields of a value that was read are decoded
whatever its bits are; a copy that was loaded, or that is blank, can be written back unedited; and
a buffer of the machine type that was chosen for the entries holds their values unchanged
(`simulated_values_fit`).
-/

namespace RegisterMap

open Blocking

variable {α β : Type} {P : α → Prop} {w : World Simulator} {c : Contents}

/-! ## Sizes -/

/-- The value of an entry fits the entry. -/
lemma Transfer.Whole.valueIn_le {t : Transfer} (h : t.Whole) (c : Contents) (i : ℕ) :
    t.valueIn c i ≤ valueMask t.width :=
  joinWords_le h.accessWidth_pos h.accessWidth_le h.width_le
    (by simp [h.wordsPerEntry_eq])

/-- The values of all entries fit them. -/
lemma Transfer.Whole.values_le {t : Transfer} (h : t.Whole) (c : Contents) :
    ∀ v ∈ (List.range t.entries).map (t.valueIn c), v ≤ valueMask t.width :=
  List.forall_mem_map.2 fun i _ => h.valueIn_le c i

/-- The machine type that is chosen for an entry holds it. -/
lemma WordSize.le_width_ofEntry {width : ℕ} (h : width ≤ maxValueWidth) :
    width ≤ (ofEntry width).width := by
  have hroom := width_le_entryBytes width
  unfold ofEntry
  split <;> simp_all [WordSize.width, maxValueWidth]

/-- A buffer for entries keeps values that fit them. -/
lemma TypedBuffer.toValues_ofValues {width : ℕ} {values : List ℕ} (hwidth : width ≤ maxValueWidth)
    (hvalues : ∀ v ∈ values, v ≤ valueMask width) : (ofValues width values).toValues = values := by
  have hkeep : ∀ v ∈ values, v % RegisterMap.valueCount (WordSize.ofEntry width).width = v := by
    intro v hv
    refine Nat.mod_eq_of_lt ?_
    have hpow : 2 ^ width ≤ 2 ^ (WordSize.ofEntry width).width :=
      Nat.pow_le_pow_right (by decide) (WordSize.le_width_ofEntry hwidth)
    have hle := hvalues v hv
    have hpos : 0 < 2 ^ width := Nat.two_pow_pos _
    rw [valueMask, Nat.min_eq_left hwidth] at hle
    simp only [RegisterMap.valueCount, Nat.pow_eq] at hle ⊢
    omega
  exact (List.map_congr_left hkeep).trans values.map_id

/-- The reset values of fields that lie in the register make up a value that fits it. -/
lemma RegisterLayout.Admitted.resetValue_le {r : RegisterLayout} (h : r.Admitted) :
    r.resetValue ≤ r.maxValue := by
  refine le_valueMask_of_testBit h.sizes.width_le fun bit hbit => ?_
  rw [resetValue, testBit_foldl_or, List.any_eq_false]
  intro bits hbits
  obtain ⟨f, hf, hreset⟩ := List.mem_filterMap.1 hbits
  obtain ⟨v, -, hencode⟩ := Option.bind_eq_some_iff.1 hreset
  have hbits : f.geometry.encode v = .ok bits := by
    cases hencoded : f.geometry.encode v with
    | error e => rw [hencoded] at hencode; cases hencode
    | ok bits' => rw [hencoded] at hencode; cases hencode; rfl
  have hfits := (h.within f hf).encode_le h.sizes.width_le hbits
  simp [testBit_of_le_valueMask hfits hbit]

/-! ## Faults -/

/-- The fault is not that a value is too large. -/
def Fault.NotTooLarge (e : Fault) : Prop := ∀ value max, e ≠ .tooLarge value max

lemma RegisterLayout.failsOnly_checkReadable (r : RegisterLayout) :
    FailsOnly Fault.NotTooLarge r.checkReadable := by
  unfold checkReadable
  split
  · exact .ok ()
  · exact .error nofun

/-- A value that fits the register is decoded, or is no member of an enumeration. -/
lemma FieldLayout.failsOnly_decode (f : FieldLayout) {raw width : ℕ} (h : raw ≤ valueMask width) :
    FailsOnly Fault.NotTooLarge (f.decode raw width) := by
  have hbits : FailsOnly Fault.NotTooLarge (f.geometry.decode raw width) := by
    rw [Geometry.decode_eq_ok_of_le h]
    exact .ok _
  refine hbits.bind fun value _ => ?_
  split
  · exact .ok _
  · split
    · exact .ok _
    · exact .error nofun

lemma RegisterLayout.failsOnly_decodeFields (r : RegisterLayout) {raw : ℕ} (h : raw ≤ r.maxValue) :
    FailsOnly Fault.NotTooLarge (r.decodeFields raw) :=
  .mapM fun f _ => .bind (f.failsOnly_decode h) fun _ _ => .ok _

/-! ## Reading -/

namespace Blocking

/-- On this simulator the operation gives a value with the property, unless the check refuses it. -/
def Gives (x : Blocking Simulator α) (w : World Simulator) (check : Except Fault Unit)
    (P : α → Prop) : Prop :=
  match check with
  | .ok _ => ∃ a, (x.run Simulator.toBus w).1 = .ok a ∧ P a
  | .error e => (x.run Simulator.toBus w).1 = .error e

variable {x : Blocking Simulator α} {check check' : Except Fault Unit} {a : α}

lemma Gives.of_yields {f : Unit → Blocking Simulator α} (hf : Yields (f ()) w.bus.contents a c)
    (ha : P a) : Gives (Port.decide check >>= f) w check P := by
  cases check with
  | error e => rfl
  | ok _ =>
    obtain ⟨w', hrun, -⟩ := hf w rfl
    exact ⟨a, congrArg Prod.fst hrun, ha⟩

/-- What the operation gives has the property. -/
lemma Gives.of_run (h : Gives x w check P) {w' : World Simulator}
    (hrun : x.run Simulator.toBus w = (.ok a, w')) : P a := by
  unfold Gives at h
  rw [hrun] at h
  cases check with
  | error e => cases h
  | ok _ =>
    obtain ⟨b, hb, hP⟩ := h
    cases hb
    exact hP

lemma run_bindPure {σ : Type} {bus : Bus σ} (x : Blocking σ α) (g : α → β) (w : World σ) :
    (x >>= fun a => pure (g a)).run bus w = ((x.run bus w).1.map g, (x.run bus w).2) := by
  rw [run_bind]
  rcases x.run bus w with ⟨e | a, w'⟩ <;> rfl

lemma Gives.bindPure {Q : β → Prop} {g : α → β} (hx : Gives x w check P)
    (hg : ∀ a, P a → Q (g a)) : Gives (x >>= fun a => pure (g a)) w check Q := by
  unfold Gives at hx ⊢
  rw [run_bindPure]
  cases check with
  | error e =>
    change (x.run Simulator.toBus w).1 = .error e at hx
    dsimp only
    rw [hx]
    rfl
  | ok _ =>
    obtain ⟨a, ha, hP⟩ := hx
    refine ⟨g a, ?_, hg a hP⟩
    rw [ha]
    rfl

/-- A check of what was read fails as it does for the values that are read. -/
lemma Gives.failsOnly {Q : Fault → Prop} {g : α → Except Fault β} (hx : Gives x w check P)
    (hcheck : FailsOnly Q check) (hg : ∀ a, P a → FailsOnly Q (g a)) :
    FailsOnly Q (Blocking.run (x >>= fun a => Port.decide (g a)) Simulator.toBus w).1 := by
  rw [run_bind]
  rcases hrun : x.run Simulator.toBus w with ⟨e | a, w'⟩
  · unfold Gives at hx
    rw [hrun] at hx
    cases check with
    | error e' =>
      cases hx
      exact .error (hcheck e rfl)
    | ok _ =>
      obtain ⟨_, hok, -⟩ := hx
      cases hok
  · dsimp only
    rw [run_decide]
    exact hg a (hx.of_run hrun)

/-- The values of a buffer are those that were read. -/
lemma Gives.run_typed {x : Blocking Simulator (List ℕ)} {P : List ℕ → Prop} {width : ℕ}
    (hx : Gives x w check P) (hwidth : width ≤ maxValueWidth)
    (hfits : ∀ values, P values → ∀ v ∈ values, v ≤ valueMask width) :
    Blocking.run (TypedBuffer.toValues <$> (x >>= fun values => pure (.ofValues width values)))
      Simulator.toBus w = x.run Simulator.toBus w := by
  rw [map_eq_pure_bind, bind_assoc, run_bind]
  rcases hrun : x.run Simulator.toBus w with ⟨e | values, w'⟩
  · rfl
  · have hkept := TypedBuffer.toValues_ofValues hwidth (hfits values (hx.of_run hrun))
    change (Except.ok _, w') = _
    rw [hkept]

end Blocking

/-! ## Registers, arrays and memories -/

/-- What software reads of the register fits it, and its fields are decoded. -/
structure Register.ReadsFit (r : Register) (w : World Simulator) : Prop where
  value : Gives r.read w r.layout.checkReadable (· ≤ valueMask r.layout.width)
  fields : FailsOnly Fault.NotTooLarge (Blocking.run r.readFields Simulator.toBus w).1
  field : ∀ f : Field, f.register = r →
    FailsOnly Fault.NotTooLarge (Blocking.run f.read Simulator.toBus w).1 ∧
      FailsOnly Fault.NotTooLarge (Blocking.run f.readValue Simulator.toBus w).1

theorem Register.readsFit {r : Register} (h : r.layout.Admitted) (w : World Simulator) :
    r.ReadsFit w := by
  have hvalue : Gives r.read w r.layout.checkReadable (· ≤ valueMask r.layout.width) :=
    .of_yields (yields_physicalRead h _) (h.valueIn_le _)
  refine ⟨hvalue, hvalue.failsOnly r.layout.failsOnly_checkReadable fun _ hraw =>
    r.layout.failsOnly_decodeFields hraw, ?_⟩
  rintro f rfl
  have hraw : Gives (Port.decide f.checkReadable >>= fun _ => f.register.physicalRead) w
      f.checkReadable (· ≤ valueMask f.register.layout.width) :=
    .of_yields (yields_physicalRead h _) (h.valueIn_le _)
  have hcheck : FailsOnly Fault.NotTooLarge f.checkReadable := by
    unfold Field.checkReadable
    split
    · exact .ok ()
    · exact .error nofun
  constructor
  · unfold Field.read
    rw [← bind_assoc]
    refine hraw.failsOnly hcheck fun raw hraw => ?_
    rw [Geometry.decode_eq_ok_of_le hraw]
    exact .ok _
  · unfold Field.readValue
    rw [← bind_assoc]
    exact hraw.failsOnly hcheck fun raw hraw => f.layout.failsOnly_decode hraw

/-- What software reads of the array fits its elements, and so does what it reads of each. -/
structure RegisterArray.ReadsFit (a : RegisterArray) (w : World Simulator) : Prop where
  values : Gives a.readAll w a.layout.checkReadable fun values =>
    values.length = a.size ∧ ∀ v ∈ values, v ≤ valueMask a.layout.width
  fields : FailsOnly Fault.NotTooLarge (Blocking.run a.readFieldsAll Simulator.toBus w).1
  /-- A buffer holds the same values. -/
  typed : Blocking.run (TypedBuffer.toValues <$> a.readTyped) Simulator.toBus w =
    Blocking.run a.readAll Simulator.toBus w
  element : ∀ i, (a.element i).ReadsFit w

theorem RegisterArray.readsFit {a : RegisterArray} (h : a.layout.Admitted) (w : World Simulator) :
    a.ReadsFit w := by
  have hwhole : a.transfer.Whole := Copied.Admitted.whole (o := .array a) h.sizes
  have hvalues : Gives a.readAll w a.layout.checkReadable fun values =>
      values.length = a.size ∧ ∀ v ∈ values, v ≤ valueMask a.layout.width :=
    .of_yields (hwhole.yields_readValues _) ⟨by simp [transfer], hwhole.values_le _⟩
  refine ⟨hvalues, ?_, hvalues.run_typed h.sizes.width_le fun _ => And.right, fun i => ?_⟩
  · exact hvalues.failsOnly a.layout.failsOnly_checkReadable fun values hfits =>
      .mapM fun v hv => a.layout.failsOnly_decodeFields (hfits.2 v hv)
  · exact Register.readsFit (r := a.element i) ⟨h.sizes, h.within⟩ w

/-- The sizes of the memory are those that the loader accepts. -/
def MemoryLayout.Admitted (l : MemoryLayout) : Prop :=
  MemoryDetail.Admitted ⟨l.entries, l.width, l.accessWidth, l.access⟩

/-- Refuses reads of a range. -/
def MemoryLayout.checkRead (l : MemoryLayout) (start count : ℕ) : Except Fault Unit := do
  l.checkReadable
  l.checkRange start count

/-- What software reads of the memory fits its entries. -/
structure Memory.ReadsFit (mem : Memory) (w : World Simulator) : Prop where
  values : ∀ start count, Gives (mem.read start count) w (mem.layout.checkRead start count)
    fun values => values.length = count ∧ ∀ v ∈ values, v ≤ valueMask mem.layout.width
  entry : ∀ index, Gives (mem.readEntry index) w (mem.layout.checkRead index 1)
    (· ≤ valueMask mem.layout.width)
  /-- A buffer holds the same values. -/
  typed : ∀ start count,
    Blocking.run (TypedBuffer.toValues <$> mem.readTyped start count) Simulator.toBus w =
      Blocking.run (mem.read start count) Simulator.toBus w

theorem Memory.readsFit {mem : Memory} (h : mem.layout.Admitted) (w : World Simulator) :
    mem.ReadsFit w := by
  have hvalues : ∀ start count, Gives (mem.read start count) w (mem.layout.checkRead start count)
      fun values => values.length = count ∧ ∀ v ∈ values, v ≤ valueMask mem.layout.width := by
    intro start count
    have hwhole : (mem.layout.transfer start count).Whole :=
      Copied.Admitted.whole (o := .entries mem start count) h
    have hchecks : mem.read start count =
        (Port.decide (mem.layout.checkRead start count) >>= fun _ =>
          (mem.layout.transfer start count).readValues : Blocking Simulator (List ℕ)) := by
      unfold read MemoryLayout.checkRead
      cases mem.layout.checkReadable <;> rfl
    rw [hchecks]
    exact .of_yields (hwhole.yields_readValues _)
      ⟨by simp [MemoryLayout.transfer, Transfer.contiguous], hwhole.values_le _⟩
  refine ⟨hvalues, fun index => ?_, fun start count => ?_⟩
  · refine (hvalues index 1).bindPure fun values hfits => ?_
    obtain ⟨v, rfl⟩ := List.length_eq_one_iff.1 hfits.1
    exact hfits.2 v (List.mem_singleton_self v)
  · exact (hvalues start count).run_typed h.width_le fun _ => And.right

/-! ## Copies -/

namespace Copied

/-- The layout of the object is one that the loader accepts. -/
def LayoutAdmitted : Copied → Prop
  | register r => r.layout.Admitted
  | array a => a.layout.Admitted
  | entries mem _ _ => mem.layout.Admitted

/-- Refuses to open a session on the object. -/
def checkOpen (o : Copied) (options : SessionOptions) : Except Fault Unit := do
  o.checkRange
  if options.verify && !o.mayRead then .error (.accessDenied o.name .read) else .ok ()

/-- The copy can be written back as it is: it has a value for each entry, all of them fit, and on
every simulator it is written unless software may not write the object. -/
structure WritesBack (o : Copied) (copy : o.Snapshot) : Prop where
  whole : o.Whole copy
  fits : ∀ v ∈ o.values copy, v ≤ valueMask o.transfer.width
  store : ∀ w : World Simulator, (Blocking.run (o.target.store copy) Simulator.toBus w).1 =
    if o.mayWrite then .ok () else .error (.accessDenied o.name .write)

variable {o : Copied} {copy : o.Snapshot} {options : SessionOptions}

lemma LayoutAdmitted.sizes (h : o.LayoutAdmitted) : o.Admitted := by
  cases o with
  | register r => exact RegisterLayout.Admitted.sizes h
  | array a => exact RegisterLayout.Admitted.sizes h
  | entries mem start count => exact h

/-- Loading gives a whole copy that fits. -/
lemma exists_yields_load (h : o.LayoutAdmitted) (hrange : o.checkRange = .ok ()) (c : Contents) :
    ∃ copy, Yields o.target.load c copy c ∧ o.Whole copy ∧
      ∀ v ∈ o.values copy, v ≤ valueMask o.transfer.width := by
  have hwhole := h.sizes.whole
  have hentries := hwhole.values_le c
  cases o with
  | register r =>
    have hvalue := RegisterLayout.Admitted.valueIn_le h c
    exact ⟨_, Register.yields_physicalRead h c, rfl, fun v hv => by
      rw [List.mem_singleton.1 hv]
      exact hvalue⟩
  | array a => exact ⟨_, hwhole.yields_readValues c, by simp [Whole, values], hentries⟩
  | entries mem start count =>
    exact ⟨_, (Yields.decide hrange c).bind (hwhole.yields_readValues c), by simp [Whole, values],
      hentries⟩

/-- The copy of an object that cannot be read fits. -/
lemma blank_fits (h : o.LayoutAdmitted) :
    ∀ v ∈ o.values o.blank, v ≤ valueMask o.transfer.width := by
  intro v hv
  cases o with
  | register r =>
    rw [List.mem_singleton.1 hv]
    exact RegisterLayout.Admitted.resetValue_le h
  | array a =>
    rw [List.eq_of_mem_replicate hv]
    exact RegisterLayout.Admitted.resetValue_le h
  | entries mem start count =>
    rw [List.eq_of_mem_replicate hv]
    exact Nat.zero_le _

/-- A whole copy that fits is written by every simulator. -/
lemma exists_yields_physicalStore (h : o.LayoutAdmitted) (hwhole : o.Whole copy)
    (hfits : ∀ v ∈ o.values copy, v ≤ valueMask o.transfer.width) (c : Contents) :
    ∃ c', Yields (o.physicalStore copy) c () c' := by
  cases o with
  | register r =>
    exact ⟨_, Register.yields_physicalWrite h (hfits copy (List.mem_singleton_self copy)) c⟩
  | array a => exact ⟨_, h.sizes.whole.yields_writeValues hwhole hfits c⟩
  | entries mem start count => exact ⟨_, h.sizes.whole.yields_writeValues hwhole hfits c⟩

lemma writesBack (h : o.LayoutAdmitted) (hrange : o.checkRange = .ok ()) (hwhole : o.Whole copy)
    (hfits : ∀ v ∈ o.values copy, v ≤ valueMask o.transfer.width) : o.WritesBack copy := by
  refine ⟨hwhole, hfits, fun w => ?_⟩
  rw [store_eq hrange hwhole, checkCopy]
  cases o.mayWrite with
  | false => rfl
  | true =>
    obtain ⟨c', hstore⟩ := exists_yields_physicalStore h hwhole hfits w.bus.contents
    obtain ⟨w', hrun, -⟩ := hstore w rfl
    rw [if_pos rfl, checkFits_eq_ok.2 (o.maxValue_eq ▸ hfits)]
    exact congrArg Prod.fst hrun

/-- A session that is not refused starts from a copy that can be written back. -/
theorem gives_snapshot (h : o.LayoutAdmitted) (options : SessionOptions) (w : World Simulator) :
    Gives (o.target.snapshot options) w (o.checkOpen options) o.WritesBack := by
  unfold SessionTarget.snapshot checkOpen
  rw [o.target_valid, o.target_readable, o.target_blank]
  cases hrange : o.checkRange with
  | error e => rfl
  | ok _ =>
    cases o.mayRead with
    | true =>
      obtain ⟨copy, hload, hwhole, hfits⟩ := exists_yields_load h hrange w.bus.contents
      obtain ⟨w', hrun, -⟩ := hload w rfl
      cases options.verify <;>
        exact ⟨copy, congrArg Prod.fst hrun, writesBack h hrange hwhole hfits⟩
    | false =>
      cases options.verify with
      | true => rfl
      | false => exact ⟨o.blank, rfl, writesBack h hrange o.whole_blank (blank_fits h)⟩

end Copied

/-- On every simulator, whatever it holds, whichever reads of it are overridden and whether or not
it offers block accesses, everything that is read of registers, arrays and memories with layouts
that the loader accepts fits.  Fields are decoded without a value being too large, a copy that a
session starts from can be written back as it is, and typed buffers hold the values unchanged. -/
theorem simulated_values_fit (w : World Simulator) :
    (∀ r : Register, r.layout.Admitted → r.ReadsFit w) ∧
      (∀ a : RegisterArray, a.layout.Admitted → a.ReadsFit w) ∧
      (∀ mem : Memory, mem.layout.Admitted → mem.ReadsFit w) ∧
      ∀ o : Copied, o.LayoutAdmitted → ∀ options : SessionOptions,
        Gives (o.target.snapshot options) w (o.checkOpen options) o.WritesBack :=
  ⟨fun _ h => Register.readsFit h w, fun _ h => RegisterArray.readsFit h w,
    fun _ h => Memory.readsFit h w, fun _ h options => Copied.gives_snapshot h options w⟩

/-- All bits of a stored word and of a word that is read instead of another one are set.  Of an entry
of three words of 8 bits they fill the first and the last one, and reach no further. -/
theorem overlong_words_are_cut :
    let word := 2 ^ 64 - 1
    let w : World Simulator :=
      ⟨(Simulator.new.preload 0x10 word).overrideRead 0x12 word, LockForest.empty, []⟩
    let array : RegisterArray := ⟨Register.straddled.layout, [2], 4, 0⟩
    let mem : Memory := ⟨⟨"top.mem", 0x10, 4, 24, 8, .readWrite⟩, 0⟩
    let o : Copied := .register .straddled
    Register.straddled.ReadsFit w ∧ array.ReadsFit w ∧ mem.ReadsFit w ∧
      Gives (o.target.snapshot .verified) w (.ok ()) o.WritesBack ∧
      (Blocking.run (mem.read 0 2) Simulator.toBus w).1 = .ok [0xff00ff, 0] := by
  intro word w array mem o
  have hmem : mem.layout.Admitted :=
    ⟨by decide, by decide, by decide, by decide, by decide, by decide⟩
  have hregister : Register.straddled.layout.Admitted := Register.admitted_straddled
  obtain ⟨hregisters, harrays, hmemories, hcopies⟩ := simulated_values_fit w
  refine ⟨hregisters _ hregister, harrays array hregister, hmemories mem hmem,
    hcopies o hregister .verified, ?_⟩
  let c : Contents :=
    ⟨Function.update (fun _ => 0) 0x10 word, Function.update (fun _ => none) 0x12 (some word)⟩
  have hnew : Simulator.new.contents = ⟨fun _ => 0, fun _ => none⟩ := Simulator.contents_new true
  have hw : w.bus.contents = c := by
    change ((Simulator.new.preload 0x10 word).overrideRead 0x12 word).contents = c
    rw [Simulator.contents_overrideRead, Simulator.contents_preload, hnew]
    rfl
  have hwhole : (mem.layout.transfer 0 2).Whole :=
    Copied.Admitted.whole (o := .entries mem 0 2) hmem
  have hread : Yields (mem.read 0 2) c
      ((List.range 2).map ((mem.layout.transfer 0 2).valueIn c)) c :=
    (Yields.decide rfl c).bind ((Yields.decide rfl c).bind (hwhole.yields_readValues c))
  obtain ⟨w', hrun, -⟩ := hread w hw
  have hvalues : (List.range 2).map ((mem.layout.transfer 0 2).valueIn c) = [0xff00ff, 0] := by
    decide +kernel
  rw [hrun, hvalues]

end RegisterMap
