import Mathlib
import RegisterMap.Device.Memory
import RegisterMap.Proofs.Bus.Entries
import RegisterMap.Proofs.Tree.Sizes

/-!
# Memories on a simulated bus

The entries of a memory lie `entryBytes width` bytes apart and the words of an entry
`entryBytes accessWidth` bytes apart, and the two distances are chosen independently.  An entry of
`n` words therefore reaches into the next one as soon as `n` of the smaller distances exceed the
larger one, as in entries of 27 bits that are moved as three words of 9 bits: the third word of an
entry is the first one of the next.

A memory keeps what is written to it exactly when no two of its words share an address
(`keeps_iff_separate`), and that is decided by its sizes (`separate_iff`).
-/

namespace RegisterMap

/-- The layout of a memory of the tree, under a name and at an address. -/
def MemoryDetail.layout (m : MemoryDetail) (name : String) (address : ℕ) : MemoryLayout :=
  ⟨name, address, m.entries, m.width, m.accessWidth, m.access⟩

namespace MemoryDetail

variable (m : MemoryDetail) (name : String) (address : ℕ)

@[simp] lemma layout_accessWidth : (m.layout name address).accessWidth = m.accessWidth := rfl

end MemoryDetail

namespace MemoryLayout

/-! ## Words of a memory -/

/-- The number of words of an entry. -/
def wordCount (l : MemoryLayout) : ℕ := l.width / l.accessWidth

/-- The address of a word of an entry. -/
def wordAddress (l : MemoryLayout) (i k : ℕ) : ℕ :=
  l.entryAddress i + k * RegisterMap.entryBytes l.accessWidth

/-- The value of an entry in some contents. -/
def valueAt (l : MemoryLayout) (c : Contents) (i : ℕ) : ℕ :=
  joinWords l.accessWidth ((List.range l.wordCount).map fun k =>
    c.seen (l.wordAddress i k) &&& wordMask l.accessWidth)

/-- The value of an entry depends on the words at its addresses alone. -/
lemma valueAt_congr {l : MemoryLayout} {c : Contents} {i : ℕ} {seen : ℕ → ℕ}
    (h : ∀ k < l.wordCount, c.seen (l.wordAddress i k) = seen k) :
    l.valueAt c i = joinWords l.accessWidth
      ((List.range l.wordCount).map fun k => seen k &&& wordMask l.accessWidth) := by
  unfold valueAt
  congr 1
  refine List.map_congr_left fun k hk => ?_
  rw [h k (List.mem_range.1 hk)]

/-- The addresses of the words of an entry. -/
def wordAddresses (l : MemoryLayout) (i : ℕ) : List ℕ :=
  (List.range l.wordCount).map (l.wordAddress i)

/-- The words that a write stores, with their addresses. -/
def stores (l : MemoryLayout) (start : ℕ) (data : List ℕ) : List (ℕ × ℕ) :=
  ((List.range data.length).zip data).flatMap fun p =>
    (l.wordAddresses (start + p.1)).zip (splitWords p.2 l.width l.accessWidth)

/-- No two words of the memory share an address. -/
def Separate (l : MemoryLayout) : Prop :=
  ∀ i < l.entries, ∀ j < l.entries, ∀ k < l.wordCount, ∀ k' < l.wordCount,
    l.wordAddress i k = l.wordAddress j k' → i = j ∧ k = k'

end MemoryLayout

/-! ## Sizes -/

section Sizes

variable {m : MemoryDetail} {name : String} {address : ℕ}

lemma MemoryDetail.Admitted.accessWidth_le_width (h : m.Admitted) : m.accessWidth ≤ m.width :=
  Nat.le_of_dvd h.width_pos h.accessWidth_dvd

lemma MemoryDetail.Admitted.wordCount_pos (h : m.Admitted) : 0 < m.width / m.accessWidth :=
  Nat.div_pos h.accessWidth_le_width h.accessWidth_pos

lemma MemoryDetail.wordAddress_eq (i k : ℕ) : (m.layout name address).wordAddress i k =
    address + i * entryBytes m.width + k * entryBytes m.accessWidth := rfl

/-- Entries reach into each other when one does not end before the next one begins: some word of the
first entry is then the first word of the second one. -/
lemma MemoryDetail.Admitted.exists_shared (h : m.Admitted) (name : String) (address : ℕ)
    (hlong : entryBytes m.width < m.width / m.accessWidth * entryBytes m.accessWidth) :
    ∃ q < (m.layout name address).wordCount, (m.layout name address).wordAddress 0 q =
      (m.layout name address).wordAddress 1 0 := by
  obtain ⟨q, hq⟩ := entryBytes_dvd h.accessWidth_pos h.accessWidth_le_width
  refine ⟨q, ?_, ?_⟩
  · rw [hq, mul_comm] at hlong
    exact lt_of_mul_lt_mul_right hlong (Nat.zero_le _)
  · rw [m.wordAddress_eq, m.wordAddress_eq, hq]
    ring

/-- The words of a memory are apart exactly when an entry ends before the next one begins, or there
is no next one. -/
theorem MemoryDetail.Admitted.separate_iff (h : m.Admitted) :
    (m.layout name address).Separate ↔
      m.entries = 1 ∨ m.width / m.accessWidth * entryBytes m.accessWidth ≤ entryBytes m.width := by
  constructor
  · intro hseparate
    by_contra hcon
    rw [not_or, Nat.not_le] at hcon
    obtain ⟨q, hq, hshared⟩ := h.exists_shared name address hcon.2
    have hentries : 1 < m.entries := by
      have := h.entries_pos
      omega
    have hequal := hseparate 0 h.entries_pos 1 hentries q hq 0 h.wordCount_pos hshared
    exact absurd hequal.1 (by decide)
  · intro hfit i hi j hj k hk k' hk' heq
    rw [m.wordAddress_eq, m.wordAddress_eq] at heq
    have hpos : 0 < entryBytes m.accessWidth := entryBytes_pos _
    have hij : i = j := by
      rcases hfit with hone | hfit
      · have hi' : i < m.entries := hi
        have hj' : j < m.entries := hj
        omega
      · have hend : ∀ n < m.width / m.accessWidth,
            n * entryBytes m.accessWidth < entryBytes m.width := fun n hn =>
          lt_of_lt_of_le (Nat.mul_lt_mul_of_pos_right hn hpos) hfit
        rcases Nat.lt_trichotomy i j with hlt | rfl | hgt
        · have hstep := Nat.mul_le_mul_right (entryBytes m.width) hlt
          have := hend k hk
          rw [Nat.succ_mul] at hstep
          omega
        · rfl
        · have hstep := Nat.mul_le_mul_right (entryBytes m.width) hgt
          have := hend k' hk'
          rw [Nat.succ_mul] at hstep
          omega
    subst hij
    exact ⟨rfl, Nat.eq_of_mul_eq_mul_right hpos (by omega)⟩

end Sizes

/-! ## Reading and writing -/

section Operations

open Blocking

variable {m : MemoryDetail} {name : String} {address : ℕ}

lemma MemoryDetail.Admitted.whole (h : m.Admitted) (start count : ℕ) :
    ((m.layout name address).transfer start count).Whole :=
  ⟨h.width_pos, h.width_le, h.accessWidth_pos, h.accessWidth_le, h.accessWidth_dvd⟩

lemma MemoryDetail.Admitted.transferWordAddress (h : m.Admitted) (start count i k : ℕ) :
    ((m.layout name address).transfer start count).wordAddress i k =
      (m.layout name address).wordAddress (start + i) k := by
  rw [Transfer.wordAddress, (h.whole start count).wordWidth_eq, m.wordAddress_eq]
  simp only [Transfer.entryAddress, MemoryLayout.transfer, Transfer.contiguous,
    MemoryLayout.entryAddress, MemoryLayout.entryBytes, MemoryDetail.layout]
  ring

lemma MemoryDetail.Admitted.transferWordAddresses (h : m.Admitted) (start count i : ℕ) :
    ((m.layout name address).transfer start count).wordAddresses i =
      (m.layout name address).wordAddresses (start + i) := by
  unfold Transfer.wordAddresses MemoryLayout.wordAddresses
  rw [(h.whole start count).wordsPerEntry_eq]
  exact List.map_congr_left fun k _ => h.transferWordAddress start count i k

lemma MemoryDetail.Admitted.valueIn_transfer (h : m.Admitted) (start count : ℕ) (c : Contents)
    (i : ℕ) : ((m.layout name address).transfer start count).valueIn c i =
      (m.layout name address).valueAt c (start + i) := by
  rw [Transfer.valueIn, h.transferWordAddresses, MemoryLayout.wordAddresses, List.map_map]
  rfl

lemma MemoryDetail.Admitted.stores_transfer (h : m.Admitted) (start : ℕ) (data : List ℕ) :
    ((m.layout name address).transfer start data.length).stores data =
      (m.layout name address).stores start data := by
  refine List.flatMap_congr fun p _ => ?_
  rw [h.transferWordAddresses, (h.whole start data.length).map_entryWords]
  rfl

/-- Every word of an entry begins in it. -/
lemma MemoryDetail.Admitted.mul_accessWidth_lt (h : m.Admitted) {k : ℕ}
    (hk : k < m.width / m.accessWidth) : k * m.accessWidth < m.width := by
  calc k * m.accessWidth < m.width / m.accessWidth * m.accessWidth :=
        Nat.mul_lt_mul_of_pos_right hk h.accessWidth_pos
    _ = m.width := Nat.div_mul_cancel h.accessWidth_dvd

/-- The first bit of a word, as a bit of the entry. -/
lemma MemoryDetail.Admitted.testBit_valueAt (h : m.Admitted) {c : Contents} {i k : ℕ}
    (hk : k < m.width / m.accessWidth) :
    ((m.layout name address).valueAt c i).testBit (k * m.accessWidth) =
      (c.seen ((m.layout name address).wordAddress i k)).testBit 0 := by
  have hless : k * m.accessWidth < maxValueWidth := (h.mul_accessWidth_lt hk).trans_le h.width_le
  have hmask : (wordMask m.accessWidth).testBit 0 = true := by
    rw [testBit_wordMask, Nat.min_eq_left h.accessWidth_le]
    simpa using h.accessWidth_pos
  have hk' : k < (m.layout name address).wordCount := hk
  unfold MemoryLayout.valueAt
  rw [m.layout_accessWidth, testBit_joinWords h.accessWidth_pos h.accessWidth_le,
    Nat.mul_div_cancel _ h.accessWidth_pos, Nat.mul_mod_left, List.getD_eq_getElem?_getD,
    List.getElem?_map, List.getElem?_range hk', Option.map_some, Option.getD_some, Nat.testBit_and,
    hmask, Bool.and_true]
  simp [hless]

/-- Reading gives the values that the entries have. -/
theorem MemoryDetail.Admitted.yields_read (h : m.Admitted) (hreadable : m.access.readable = true)
    (name : String) (address : ℕ) (lock : LockId) (start count : ℕ)
    (hrange : start + count ≤ m.entries) (c : Contents) :
    Yields (Memory.read ⟨m.layout name address, lock⟩ start count) c
      ((List.range count).map fun i => (m.layout name address).valueAt c (start + i)) c := by
  have hreads : (m.layout name address).checkReadable = .ok () := if_pos hreadable
  have hcheck : (m.layout name address).checkRange start count = .ok () :=
    if_neg (Nat.not_lt.2 ((Nat.min_le_left _ _).trans hrange))
  have hvalues : ((m.layout name address).transfer start count).valueIn c =
      fun i => (m.layout name address).valueAt c (start + i) :=
    funext (h.valueIn_transfer start count c)
  refine Yields.bind (.decide hreads c) ?_
  refine Yields.bind (.decide hcheck c) ?_
  rw [← hvalues]
  exact (h.whole start count).yields_readValues c

/-- Writing stores the words of the values, the last entry last. -/
theorem MemoryDetail.Admitted.yields_write (h : m.Admitted) (hwritable : m.access.writable = true)
    (name : String) (address : ℕ) (lock : LockId) (start : ℕ) (data : List ℕ)
    (hrange : start + data.length ≤ m.entries) (hvalues : ∀ v ∈ data, v ≤ valueMask m.width)
    (c : Contents) :
    Yields (Memory.write ⟨m.layout name address, lock⟩ start data) c ()
      (c.setAll ((m.layout name address).stores start data)) := by
  have hwrites : (m.layout name address).checkWritable = .ok () := if_pos hwritable
  have hcheck : (m.layout name address).checkRange start data.length = .ok () :=
    if_neg (Nat.not_lt.2 ((Nat.min_le_left _ _).trans hrange))
  have hfits : (m.layout name address).checkValues data = .ok () := by
    have hnone : data.find? (fun v => (m.layout name address).maxValue < v) = none :=
      List.find?_eq_none.2 fun v hv hlarge =>
        absurd (of_decide_eq_true hlarge) (Nat.not_lt.2 (hvalues v hv))
    unfold MemoryLayout.checkValues
    rw [hnone]
  refine Yields.bind (.decide hwrites c) ?_
  refine Yields.bind (.decide hcheck c) ?_
  refine Yields.bind (.decide hfits c) ?_
  rw [← h.stores_transfer]
  exact (h.whole start data.length).yields_writeValues rfl hvalues c

end Operations

/-! ## Keeping what is written -/

section Keeping

open Blocking

/-- Software can rely on the memory: on every simulator that reads what is stored, a write of values
that fit the entries succeeds, reading the range gives them back, and every other entry reads as
before. -/
def Memory.Keeps (mem : Memory) : Prop :=
  ∀ (start : ℕ) (data : List ℕ), start + data.length ≤ mem.layout.entries →
    (∀ v ∈ data, v ≤ mem.layout.maxValue) →
    ∀ w : World Simulator, (∀ address : ℕ, w.bus.overrides[address]? = none) →
      ∃ w', Blocking.run (mem.write start data) Simulator.toBus w = (.ok (), w') ∧
        (Blocking.run (mem.read start data.length) Simulator.toBus w').1 = .ok data ∧
        ∀ i < mem.layout.entries, (i < start ∨ start + data.length ≤ i) →
          ∃ v, (Blocking.run (mem.read i 1) Simulator.toBus w).1 = .ok [v] ∧
            (Blocking.run (mem.read i 1) Simulator.toBus w').1 = .ok [v]

variable {m : MemoryDetail} {name : String} {address : ℕ} {c : Contents} {start : ℕ} {data : List ℕ}

lemma MemoryLayout.addresses_stores (l : MemoryLayout) :
    (l.stores start data).map Prod.fst =
      (List.range data.length).flatMap fun i => l.wordAddresses (start + i) := by
  have hlength : ∀ (l : MemoryLayout) (i v : ℕ),
      (l.wordAddresses i).length = (splitWords v l.width l.accessWidth).length := by
    intro l i v
    simp [wordAddresses, wordCount]
  have hzip : (List.range data.length).map (fun i => l.wordAddresses (start + i)) =
      ((List.range data.length).zip data).map fun p => l.wordAddresses (start + p.1) := by
    have hfst : ((List.range data.length).zip data).map Prod.fst = List.range data.length :=
      List.map_fst_zip (by simp)
    conv_lhs => rw [← hfst]
    rw [List.map_map]
    rfl
  rw [stores, List.map_flatMap, List.flatMap_def, List.flatMap_def, hzip]
  congr 1
  refine List.map_congr_left fun p _ => ?_
  exact List.map_fst_zip (hlength l _ _).le

/-- The words of a range are apart if those of the memory are. -/
lemma MemoryDetail.Admitted.apart_transfer (h : m.Admitted)
    (hseparate : (m.layout name address).Separate) {count : ℕ}
    (hrange : start + count ≤ m.entries) :
    ((m.layout name address).transfer start count).Apart := by
  intro i hi j hj k hk k' hk' heq
  have hi' : start + i < m.entries := Nat.lt_of_lt_of_le (Nat.add_lt_add_left hi start) hrange
  have hj' : start + j < m.entries := Nat.lt_of_lt_of_le (Nat.add_lt_add_left hj start) hrange
  rw [(h.whole start count).wordsPerEntry_eq] at hk hk'
  rw [h.transferWordAddress, h.transferWordAddress] at heq
  obtain ⟨hentry, hword⟩ := hseparate (start + i) hi' (start + j) hj' k hk k' hk' heq
  exact ⟨Nat.add_left_cancel hentry, hword⟩

/-- Where the words are apart, an entry has the value that was written to it. -/
lemma MemoryDetail.Admitted.valueAt_stores (h : m.Admitted)
    (hseparate : (m.layout name address).Separate) (hforced : c.forced = fun _ => none)
    (hrange : start + data.length ≤ m.entries) (hvalues : ∀ v ∈ data, v ≤ valueMask m.width)
    {i : ℕ} (hi : i < data.length) :
    (m.layout name address).valueAt (c.setAll ((m.layout name address).stores start data))
      (start + i) = data[i] := by
  rw [← h.valueIn_transfer start data.length, ← h.stores_transfer]
  exact (h.apart_transfer hseparate hrange).valueIn_stores (h.whole start data.length) rfl
    (List.getElem?_eq_getElem hi) (hvalues _ (List.getElem_mem hi)) fun a _ => congrFun hforced a

/-- Where the words are apart, entries outside of a range do not notice that it is written. -/
lemma MemoryLayout.Separate.valueAt_stores_of_outside {l : MemoryLayout} (hseparate : l.Separate)
    (hrange : start + data.length ≤ l.entries) {i : ℕ} (hi : i < l.entries)
    (houtside : i < start ∨ start + data.length ≤ i) :
    l.valueAt (c.setAll (l.stores start data)) i = l.valueAt c i := by
  refine valueAt_congr fun k hk => ?_
  have hnot : l.wordAddress i k ∉ (l.stores start data).map Prod.fst := by
    rw [l.addresses_stores, List.mem_flatMap]
    rintro ⟨j, hj, ha⟩
    obtain ⟨k', hk', heq⟩ := List.mem_map.1 ha
    have hj' := List.mem_range.1 hj
    have hsame := (hseparate (start + j) (by omega) i hi k' (List.mem_range.1 hk') k hk heq).1
    omega
  rw [Contents.seen, Contents.seen, Contents.forced_setAll, Contents.stored_setAll_of_notMem hnot]

/-- If a word of entry 0 is the first word of entry 1, then the ones of entry 0 are not in the memory
together with the zeros of entry 1. -/
lemma MemoryDetail.Admitted.valueAt_ne_zero_of_shared (h : m.Admitted) {q : ℕ}
    (hq : q < m.width / m.accessWidth)
    (hshared : (m.layout name address).wordAddress 0 q = (m.layout name address).wordAddress 1 0)
    (hones : (m.layout name address).valueAt c 0 = valueMask m.width) :
    (m.layout name address).valueAt c 1 ≠ 0 := by
  intro hzeros
  have hone : (valueMask m.width).testBit (q * m.accessWidth) =
      (c.seen ((m.layout name address).wordAddress 1 0)).testBit 0 := by
    rw [← hones, ← hshared]
    exact h.testBit_valueAt hq
  have hzero : ((m.layout name address).valueAt c 1).testBit (0 * m.accessWidth) =
      (c.seen ((m.layout name address).wordAddress 1 0)).testBit 0 :=
    h.testBit_valueAt h.wordCount_pos
  have hless := h.mul_accessWidth_lt hq
  have hwidth := h.width_le
  rw [← hzero, hzeros, testBit_valueMask, Nat.zero_testBit, decide_eq_false_iff_not] at hone
  omega

/-- A memory keeps what is written to it exactly when its words are apart. -/
theorem MemoryDetail.Admitted.keeps_iff_separate (h : m.Admitted) (hrw : m.access = .readWrite)
    (lock : LockId) :
    Memory.Keeps ⟨m.layout name address, lock⟩ ↔ (m.layout name address).Separate := by
  have hread : m.access.readable = true := by rw [hrw]; rfl
  have hwrite : m.access.writable = true := by rw [hrw]; rfl
  constructor
  · -- otherwise the ones of entry 0 and the zeros of entry 1 would have to share a word
    intro hkeeps
    rw [h.separate_iff]
    by_contra hcon
    rw [not_or, Nat.not_le] at hcon
    have htwo : 2 ≤ m.entries := by
      have := h.entries_pos
      omega
    obtain ⟨q, hq, hshared⟩ := h.exists_shared name address hcon.2
    let w : World Simulator := ⟨Simulator.new, LockForest.empty, []⟩
    obtain ⟨w', -, hback, -⟩ := hkeeps 0 [valueMask m.width, 0]
      (by simpa [MemoryDetail.layout] using htwo)
      (by simp [MemoryLayout.maxValue, MemoryDetail.layout]) w (fun a => by simp [w, Simulator.new])
    obtain ⟨w'', hrun, -⟩ := h.yields_read hread name address lock 0 2 (by omega)
      w'.bus.contents w' rfl
    have hvalues : [(m.layout name address).valueAt w'.bus.contents 0,
        (m.layout name address).valueAt w'.bus.contents 1] = [valueMask m.width, 0] := by
      have hsame := (congrArg Prod.fst hrun).symm.trans hback
      simpa [List.range_succ] using hsame
    simp only [List.cons.injEq, and_true] at hvalues
    exact h.valueAt_ne_zero_of_shared hq hshared hvalues.1 hvalues.2
  · intro hseparate start data hrange hvalues w hforced
    have hcontents := Simulator.contents_forced hforced
    obtain ⟨w₁, hrun, hw₁⟩ := h.yields_write hwrite name address lock start data hrange
      hvalues w.bus.contents w rfl
    refine ⟨w₁, hrun, ?_, fun i hi houtside => ?_⟩
    · obtain ⟨w₂, hrun₂, -⟩ := h.yields_read hread name address lock start data.length hrange _
        w₁ hw₁
      refine (congrArg Prod.fst hrun₂).trans (congrArg Except.ok ?_)
      refine List.ext_getElem (by simp) fun i hi hi' => ?_
      rw [List.getElem_map, List.getElem_range]
      exact h.valueAt_stores hseparate hcontents hrange hvalues hi'
    · obtain ⟨w₂, hrun₂, -⟩ := h.yields_read hread name address lock i 1 hi _ w rfl
      obtain ⟨w₃, hrun₃, -⟩ := h.yields_read hread name address lock i 1 hi _ w₁ hw₁
      refine ⟨_, congrArg Prod.fst hrun₂, (congrArg Prod.fst hrun₃).trans ?_⟩
      simp only [List.range_one, List.map_cons, List.map_nil, Nat.add_zero]
      rw [hseparate.valueAt_stores_of_outside hrange hi houtside]

/-- A memory of the tree that software may read and write keeps what is written to it exactly when
it has a single entry, or the words of an entry fit between the addresses of two entries. -/
theorem Attributes.memory_keeps_iff {path : String} {a : Attributes} (h : a.toMemory path = .ok m)
    (hrw : m.access = .readWrite) (name : String) (address : ℕ) (lock : LockId) :
    Memory.Keeps ⟨m.layout name address, lock⟩ ↔
      m.entries = 1 ∨ m.width / m.accessWidth * entryBytes m.accessWidth ≤ entryBytes m.width := by
  have hsizes := Attributes.admitted_of_toMemory h
  rw [hsizes.keeps_iff_separate hrw, hsizes.separate_iff]

/-- What the description of a memory says about its sizes. -/
def memoryAttributes (entries width accessWidth : ℕ) : Attributes :=
  { (default : Attributes) with
    kind := .memory
    memoryEntries := some entries
    memoryWidth := some width
    accessWidth := some accessWidth
    access := some .readWrite }

theorem memory_keeps_halves :
    (memoryAttributes 4 64 32).toMemory "top.m" = .ok ⟨4, 64, 32, .readWrite⟩ ∧
      Memory.Keeps ⟨MemoryDetail.layout ⟨4, 64, 32, .readWrite⟩ "top.m" 0x1000, 0⟩ :=
  ⟨rfl, (@Attributes.memory_keeps_iff _ "top.m" (memoryAttributes 4 64 32) rfl rfl "top.m" 0x1000
    0).2 (by decide)⟩

/-- Two entries of three words of 9 bits.  The entries lie 4 bytes apart and their words 2 bytes
apart, so the third word of the first entry is the first word of the second one. -/
def packedThirds : MemoryDetail := ⟨2, 27, 9, .readWrite⟩

/-- The memory is admitted, and writing its second entry overwrites the upper third of the first. -/
theorem memory_loses_upper_third :
    (memoryAttributes 2 27 9).toMemory "top.m" = .ok packedThirds ∧
      ¬ Memory.Keeps ⟨packedThirds.layout "top.m" 0x1000, 0⟩ ∧
      ∀ w : World Simulator, (∀ address : ℕ, w.bus.overrides[address]? = none) →
        ∃ w', Blocking.run (Memory.write ⟨packedThirds.layout "top.m" 0x1000, 0⟩ 0 [0x7ffffff, 0])
            Simulator.toBus w = (.ok (), w') ∧
          (Blocking.run (Memory.read ⟨packedThirds.layout "top.m" 0x1000, 0⟩ 0 2)
            Simulator.toBus w').1 = .ok [0x3ffff, 0] := by
  have hadmitted : packedThirds.Admitted :=
    @Attributes.admitted_of_toMemory "top.m" (memoryAttributes 2 27 9) _ rfl
  refine ⟨rfl, ?_, fun w hforced => ?_⟩
  · rw [hadmitted.keeps_iff_separate rfl, hadmitted.separate_iff]
    decide
  · have hnone := Simulator.contents_forced hforced
    obtain ⟨w', hrun, hw'⟩ := hadmitted.yields_write rfl "top.m" 0x1000 0 0 [0x7ffffff, 0]
      (by decide) (by decide) w.bus.contents w rfl
    obtain ⟨w'', hrun', -⟩ := hadmitted.yields_read rfl "top.m" 0x1000 0 0 2 (by decide) _ w' hw'
    refine ⟨w', hrun, (congrArg Prod.fst hrun').trans ?_⟩
    have hstores : (packedThirds.layout "top.m" 0x1000).stores 0 [0x7ffffff, 0] =
        [(0x1000, 0x1ff), (0x1002, 0x1ff), (0x1004, 0x1ff), (0x1004, 0), (0x1006, 0),
          (0x1008, 0)] := by decide
    have hseen : ∀ i < 2, ∀ k < 3,
        (w.bus.contents.setAll ((packedThirds.layout "top.m" 0x1000).stores 0 [0x7ffffff, 0])).seen
          (0x1000 + i * 4 + k * 2) = if i * 4 + k * 2 < 4 then 0x1ff else 0 := by
      intro i hi k hk
      rw [Contents.seen, Contents.forced_setAll, hnone, hstores]
      simp only [Contents.setAll_cons, Contents.setAll_nil, Contents.stored_set, Option.getD_none]
      interval_cases i <;> interval_cases k <;> rfl
    have hvalue : ∀ i < 2, (packedThirds.layout "top.m" 0x1000).valueAt
        (w.bus.contents.setAll ((packedThirds.layout "top.m" 0x1000).stores 0 [0x7ffffff, 0])) i =
          if i = 0 then 0x3ffff else 0 := by
      intro i hi
      have hwords : ∀ k < (packedThirds.layout "top.m" 0x1000).wordCount, _ := hseen i hi
      rw [MemoryLayout.valueAt_congr hwords]
      interval_cases i <;> decide
    simp only [List.range_succ, List.range_zero, List.nil_append, List.map_append, List.map_cons,
      List.map_nil, Nat.zero_add, hvalue 0 (by decide), hvalue 1 (by decide)]
    rfl

end Keeping

end RegisterMap
