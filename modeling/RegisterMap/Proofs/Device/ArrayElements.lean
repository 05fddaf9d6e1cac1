import Mathlib
import RegisterMap.Device.Array
import RegisterMap.Proofs.Bus.Entries
import RegisterMap.Proofs.Device.RegisterContents
import RegisterMap.Proofs.Index.RowMajor

/-!
# Arrays and their elements

An array is moved by one transfer, and each of its elements is a register of its own.  The words of
an entry of the transfer are the words of the element (`wordAddresses_transfer`), so the two see the
same values, overrides included.

The words of different elements are apart as soon as the stride has room for a register, because the
words of a register take exactly its bytes (`RegisterDetail.PowersOfTwo.room_eq`).  Then a write of
the whole array gives every element its value, and a write of one element leaves the others alone
(`elements_agree`).
-/

namespace RegisterMap

/-- The same sizes at the same address.  Accesses of a whole register do not look at its fields. -/
def RegisterLayout.withoutFields (r : RegisterLayout) : RegisterLayout := { r with fields := [] }

lemma RegisterLayout.admitted_withoutFields {r : RegisterLayout}
    (h : RegisterDetail.Admitted ⟨r.width, r.accessWidth⟩) : r.withoutFields.Admitted :=
  ⟨h, fun f hf => by cases hf⟩

namespace RegisterArray

open Blocking

variable {a : RegisterArray} {c : Contents} {values : List ℕ} {i j v : ℕ}

/-- What the elements read as: for every index, reading its element gives the value at its
position. -/
def ElementsRead (a : RegisterArray) (values : List ℕ) (w : World Simulator) : Prop :=
  ∀ index flat, Index.flatten index a.dimensions = .ok flat →
    ∃ r v, a.get index = .ok r ∧ values[flat]? = some v ∧
      (Blocking.run r.read Simulator.toBus w).1 = .ok v

/-! ## Words of an element -/

/-- The words of an element, where its address is computed with 64 bits and so are theirs. -/
def checkedElementWords (a : RegisterArray) (flat : ℕ) : Except Overflow (List ℕ) := do
  let address ← elementAddress a.layout.address flat a.stride
  { a.elementLayout flat with address }.checkedWordAddresses

/-- The words of all elements lie in the address space. -/
def Addressable (a : RegisterArray) : Prop := ∀ flat < a.size, (a.elementLayout flat).Addressable

instance (a : RegisterArray) : Decidable a.Addressable :=
  inferInstanceAs (Decidable (∀ flat < a.size, (a.elementLayout flat).Addressable))

section Words

variable (h : RegisterDetail.PowersOfTwo ⟨a.layout.width, a.layout.accessWidth⟩)
include h

lemma whole_transfer : a.transfer.Whole :=
  ⟨h.admitted.width_pos, h.admitted.width_le, h.admitted.accessWidth_pos, h.admitted.accessWidth_le,
    h.admitted.accessWidth_dvd⟩

lemma admitted_element (i : ℕ) : (a.elementLayout i).withoutFields.Admitted :=
  RegisterLayout.admitted_withoutFields h.admitted

/-- With 64 bits, the words of an element are found if they lie in the address space. -/
theorem checkedElementWords_ends (flat : ℕ) :
    EndsIff Overflows (a.elementLayout flat).Addressable (a.elementLayout flat).wordAddresses
      (a.checkedElementWords flat) := by
  refine ((elementAddress_ends a.layout.address flat a.stride).bind
    (a.elementLayout flat).checkedWordAddresses_ends).iff ⟨And.right, fun hwords => ⟨?_, hwords⟩⟩
  -- the element begins with its first word
  refine hwords _ (List.mem_map.2 ⟨0, List.mem_range.2 (admitted_element h flat).wordCount_pos, ?_⟩)
  exact (congrArg (_ + ·) (Nat.zero_mul _)).trans (Nat.add_zero _)

/-- The words of an entry are the words of the element. -/
theorem wordAddresses_transfer (i : ℕ) :
    a.transfer.wordAddresses i = (a.elementLayout i).wordAddresses := by
  unfold Transfer.wordAddresses RegisterLayout.wordAddresses
  rw [(whole_transfer h).wordsPerEntry_eq]
  refine List.map_congr_left fun k _ => ?_
  rw [Transfer.wordAddress, (whole_transfer h).wordWidth_eq]
  rfl

lemma valueIn_transfer (c : Contents) (i : ℕ) :
    a.transfer.valueIn c i = (a.elementLayout i).valueIn c := by
  unfold Transfer.valueIn RegisterLayout.valueIn
  rw [wordAddresses_transfer h]
  rfl

lemma apart_transfer (hstride : a.layout.width / 8 ≤ a.stride) : a.transfer.Apart := by
  refine .of_le ?_
  rw [(whole_transfer h).wordsPerEntry_eq, (whole_transfer h).wordWidth_eq]
  exact h.room_eq.le.trans hstride

/-! ## Accesses -/

/-- Reading the array gives the value of every element. -/
lemma yields_readAll (hreadable : a.layout.readable = true) (c : Contents) :
    Yields a.readAll c ((List.range a.size).map fun i => (a.elementLayout i).valueIn c) c := by
  refine Yields.bind (.decide (if_pos hreadable) c) ?_
  have hvalues : a.transfer.valueIn c = fun i => (a.elementLayout i).valueIn c :=
    funext (valueIn_transfer h c)
  rw [← hvalues]
  exact (whole_transfer h).yields_readValues c

omit h in
lemma checkValues_eq (hlength : values.length = a.size)
    (hvalues : ∀ v ∈ values, v ≤ a.layout.maxValue) : a.checkValues values = .ok () := by
  rw [checkValues, if_pos hlength]
  clear hlength
  induction values with
  | nil => rfl
  | cons v rest ih =>
    have hcheck : a.layout.checkValue v = .ok () :=
      if_neg (Nat.not_lt.2 (hvalues v List.mem_cons_self))
    show (a.layout.checkValue v >>= fun _ => rest.forM a.layout.checkValue) = .ok ()
    rw [hcheck]
    exact ih fun v' hv' => hvalues v' (List.mem_cons_of_mem v hv')

lemma yields_writeAll (hwritable : a.layout.writable = true) (hlength : values.length = a.size)
    (hvalues : ∀ v ∈ values, v ≤ a.layout.maxValue) (c : Contents) :
    Yields (a.writeAll values) c () (c.setAll (a.transfer.stores values)) := by
  refine Yields.bind (.decide (if_pos hwritable) c) ?_
  refine Yields.bind (.decide (checkValues_eq hlength hvalues) c) ?_
  exact (whole_transfer h).yields_writeValues hlength hvalues c

lemma yields_readElement (hreadable : a.layout.readable = true) (i : ℕ) (c : Contents) :
    Yields (a.element i).read c ((a.elementLayout i).valueIn c) c := by
  refine Yields.bind (.decide (if_pos hreadable) c) ?_
  exact Register.yields_physicalRead (r := ⟨(a.elementLayout i).withoutFields, (a.element i).lock⟩)
    (admitted_element h i) c

lemma yields_writeElement (hwritable : a.layout.writable = true) (i : ℕ)
    (hvalue : v ≤ a.layout.maxValue) (c : Contents) :
    Yields ((a.element i).write v) c () (c.setAll ((a.elementLayout i).stores v)) := by
  refine Yields.bind (.decide (if_pos hwritable) c) ?_
  refine Yields.bind (.decide (if_neg (Nat.not_lt.2 hvalue)) c) ?_
  exact Register.yields_physicalWrite (r := ⟨(a.elementLayout i).withoutFields, (a.element i).lock⟩)
    (admitted_element h i) hvalue c

/-! ## Values after a write -/

/-- A write of the array gives each element its value. -/
lemma valueIn_writeAll (hstride : a.layout.width / 8 ≤ a.stride) (hlength : values.length = a.size)
    (hvalues : ∀ v ∈ values, v ≤ a.layout.maxValue) (hforced : c.forced = fun _ => none)
    (hv : values[i]? = some v) :
    (a.elementLayout i).valueIn (c.setAll (a.transfer.stores values)) = v := by
  rw [← valueIn_transfer h]
  exact (apart_transfer h hstride).valueIn_stores (whole_transfer h) hlength hv
    (hvalues v (List.mem_of_getElem? hv)) fun address _ => congrFun hforced address

/-- A write of an element changes the value of this element alone. -/
lemma valueIn_writeElement (hstride : a.layout.width / 8 ≤ a.stride) (hi : i < a.size)
    (hj : j < a.size) (hvalue : v ≤ a.layout.maxValue) (hforced : c.forced = fun _ => none) :
    (a.elementLayout j).valueIn (c.setAll ((a.elementLayout i).stores v)) =
      if i = j then v else (a.elementLayout j).valueIn c := by
  by_cases hij : i = j
  · subst hij
    rw [if_pos rfl]
    exact (admitted_element h i).valueIn_stores hvalue fun address _ => congrFun hforced address
  · rw [if_neg hij, ← valueIn_transfer h, ← valueIn_transfer h]
    refine Transfer.valueIn_setAll_of_notMem fun address hmem hmem' => ?_
    rw [RegisterLayout.addresses_stores, ← wordAddresses_transfer h] at hmem'
    exact (apart_transfer h hstride).disjoint hi hj hij hmem' hmem

lemma elementsRead (hreadable : a.layout.readable = true) {w : World Simulator}
    (hvalues : ∀ i < a.size, values[i]? = some ((a.elementLayout i).valueIn w.bus.contents)) :
    a.ElementsRead values w := by
  intro index flat hflat
  obtain ⟨_, hrun, -⟩ := yields_readElement h hreadable flat w.bus.contents w rfl
  refine ⟨a.element flat, _, ?_, hvalues flat (Index.flatten_lt hflat), congrArg Prod.fst hrun⟩
  rw [get, hflat]
  rfl

end Words

/-- The array as a whole and its elements agree, on every simulated bus: the value at the position
of an index is what the element at the index reads as.  Where reads see what is stored, every element
reads as its value of a write of the whole array; a write of an element changes the value at its
position alone; and neither changes anything outside of the words that are written. -/
theorem elements_agree {path : String} {attributes : Attributes}
    (hsizes : attributes.toRegister path = .ok ⟨a.layout.width, a.layout.accessWidth⟩)
    (hreadable : a.layout.readable = true) (hwritable : a.layout.writable = true)
    (hstride : a.layout.width / 8 ≤ a.stride) (w : World Simulator) :
    (∃ values, (Blocking.run a.readAll Simulator.toBus w).1 = .ok values ∧
      a.ElementsRead values w) ∧
    ((∀ address : ℕ, w.bus.overrides[address]? = none) →
      (∀ values : List ℕ, values.length = a.size → (∀ v ∈ values, v ≤ a.layout.maxValue) →
        ∃ w', Blocking.run (a.writeAll values) Simulator.toBus w = (.ok (), w') ∧
          a.ElementsRead values w' ∧
          ∀ address, (∀ i < a.size, address ∉ (a.elementLayout i).wordAddresses) →
            w'.bus.peek address = w.bus.peek address) ∧
      ∀ index flat v, Index.flatten index a.dimensions = .ok flat → v ≤ a.layout.maxValue →
        ∃ r w' values, a.get index = .ok r ∧
          Blocking.run (r.write v) Simulator.toBus w = (.ok (), w') ∧
          (Blocking.run a.readAll Simulator.toBus w).1 = .ok values ∧ flat < values.length ∧
          (Blocking.run a.readAll Simulator.toBus w').1 = .ok (values.set flat v) ∧
          ∀ address ∉ r.layout.wordAddresses, w'.bus.peek address = w.bus.peek address) := by
  have h := Attributes.powersOfTwo_of_toRegister hsizes
  obtain ⟨w₀, hread, -⟩ := yields_readAll h hreadable w.bus.contents w rfl
  refine ⟨⟨_, congrArg Prod.fst hread, elementsRead h hreadable fun i hi => by simp [hi]⟩,
    fun hoverrides => ?_⟩
  have hforced := Simulator.contents_forced hoverrides
  refine ⟨fun values hlength hvalues => ?_, fun index flat v hflat hvalue => ?_⟩
  · obtain ⟨w', hrun, hcontents⟩ := yields_writeAll h hwritable hlength hvalues w.bus.contents w rfl
    refine ⟨w', hrun, elementsRead h hreadable fun i hi => ?_, fun address houtside => ?_⟩
    · have hv : values[i]? = some values[i] := List.getElem?_eq_getElem (hlength ▸ hi)
      rw [hcontents, valueIn_writeAll h hstride hlength hvalues hforced hv, hv]
    · have hnot : address ∉ (a.transfer.stores values).map Prod.fst := by
        rw [Transfer.addresses_stores hlength]
        intro hmem
        obtain ⟨i, hi, hword⟩ := List.mem_flatMap.1 hmem
        rw [wordAddresses_transfer h] at hword
        exact houtside i (List.mem_range.1 hi) hword
      have hstored := congrArg (Contents.stored · address) hcontents
      exact hstored.trans (Contents.stored_setAll_of_notMem hnot)
  · have hless : flat < a.size := Index.flatten_lt hflat
    obtain ⟨w', hrun, hcontents⟩ :=
      yields_writeElement h hwritable flat hvalue w.bus.contents w rfl
    obtain ⟨w'', hread', -⟩ := yields_readAll h hreadable w'.bus.contents w' rfl
    refine ⟨a.element flat, w', _, ?_, hrun, congrArg Prod.fst hread, by simpa using hless, ?_, ?_⟩
    · rw [get, hflat]
      rfl
    · refine (congrArg Prod.fst hread').trans (congrArg Except.ok ?_)
      refine List.ext_getElem (by simp) fun j hj _ => ?_
      have hj' : j < a.size := by simpa using hj
      rw [List.getElem_set, List.getElem_map, List.getElem_map, List.getElem_range, hcontents]
      exact valueIn_writeElement h hstride hless hj' hvalue hforced
    · intro address houtside
      have hstored := congrArg (Contents.stored · address) hcontents
      refine hstored.trans (Contents.stored_setAll_of_notMem ?_)
      rw [RegisterLayout.addresses_stores]
      exact houtside

/-- Two rows of three registers of two words each, with room for one word between two registers. -/
def grid : RegisterArray where
  layout :=
    { name := "top.grid"
      address := 0x100
      width := 32
      accessWidth := 16
      fields := [⟨"level", ⟨0, 32, false⟩, .readWrite, none, none⟩] }
  dimensions := [2, 3]
  stride := 6
  lock := 0

/-- What the description of a register says about the sizes in the array. -/
def gridAttributes : Attributes :=
  { (default : Attributes) with
    kind := .register
    registerWidth := some 32
    accessWidth := some 16 }

/-- Once six values were written to the array, its last register reads as the last of them. -/
theorem grid_reads_last :
    gridAttributes.toRegister "top.grid" =
      .ok ⟨grid.layout.width, grid.layout.accessWidth⟩ ∧
    ∃ r w', grid.get [1, 2] = .ok r ∧
      Blocking.run (grid.writeAll [10, 20, 30, 40, 50, 0x60000]) Simulator.toBus
        ⟨Simulator.new, LockForest.empty, []⟩ = (.ok (), w') ∧
      (Blocking.run r.read Simulator.toBus w').1 = .ok 0x60000 := by
  have hsizes : gridAttributes.toRegister "top.grid" =
      .ok ⟨grid.layout.width, grid.layout.accessWidth⟩ := rfl
  refine ⟨hsizes, ?_⟩
  obtain ⟨-, hstored⟩ := elements_agree hsizes rfl rfl (by decide)
    (⟨Simulator.new, LockForest.empty, []⟩ : World Simulator)
  obtain ⟨hwrites, -⟩ := hstored fun address => by simp [Simulator.new]
  obtain ⟨w', hrun, helements, -⟩ :=
    hwrites [10, 20, 30, 40, 50, 0x60000] (by decide) (by decide)
  obtain ⟨r, v, hget, hv, hread⟩ := helements [1, 2] 5 (by decide)
  cases hv
  exact ⟨r, w', hget, hrun, hread⟩

end RegisterArray

end RegisterMap
