import Mathlib
import RegisterMap.Device.Register
import RegisterMap.Proofs.Bus.Calls
import RegisterMap.Proofs.Overflow
import RegisterMap.Proofs.Tree.Sizes

/-!
# Registers on a simulated bus

A register is made of words of the access width that lie back to back, and a register that takes a
single access is one such word.  Its value is what the words join to, whichever way they are moved:
reading gives that value (`yields_physicalRead`), writing a value that fits stores its words
(`yields_physicalWrite`), and the register then has the value unless reads of a word are overridden
(`valueIn_stores`).

The words of one register are apart, since an access moves at least one byte.  Their addresses are
natural numbers here; the accesses compute them with 64 bits, which gives the same addresses as long
as all of them fit (`checkedWordAddresses_ends`).
-/

namespace RegisterMap

namespace RegisterLayout

/-- The sizes of the register and the positions of its fields are those that the loader accepts. -/
structure Admitted (r : RegisterLayout) : Prop where
  sizes : RegisterDetail.Admitted ⟨r.width, r.accessWidth⟩
  within : ∀ f ∈ r.fields, f.geometry.Within r.width

/-- A register of a loaded tree has accepted sizes and fields. -/
theorem admitted_of_loaded {r : RegisterLayout} {path : String} {a : Attributes}
    (hsizes : a.toRegister path = .ok ⟨r.width, r.accessWidth⟩)
    (hfields : ∀ f ∈ r.fields, ∃ path a d,
      Attributes.toField path (some ⟨r.width, r.accessWidth⟩) a = .ok d ∧
        f.geometry = d.geometry) : r.Admitted := by
  refine ⟨Attributes.admitted_of_toRegister hsizes, fun f hf => ?_⟩
  obtain ⟨path, a, d, haccepted, hgeometry⟩ := hfields f hf
  rw [hgeometry]
  exact Attributes.within_of_toField haccepted

/-! ## Words of a register -/

/-- The address of a word of the register. -/
def wordAddress (r : RegisterLayout) (k : ℕ) : ℕ := r.address + k * entryBytes r.accessWidth

/-- The addresses of the words of the register. -/
def wordAddresses (r : RegisterLayout) : List ℕ := (List.range r.wordCount).map r.wordAddress

/-- The addresses of the words, computed with 64 bits. -/
def checkedWordAddresses (r : RegisterLayout) : Except Overflow (List ℕ) :=
  (List.range r.wordCount).mapM fun k => elementAddress r.address k (entryBytes r.accessWidth)

/-- All words of the register lie in the address space. -/
def Addressable (r : RegisterLayout) : Prop := ∀ a ∈ r.wordAddresses, a < valueCount addressWidth

instance (r : RegisterLayout) : Decidable r.Addressable :=
  inferInstanceAs (Decidable (∀ a ∈ r.wordAddresses, a < valueCount addressWidth))

/-- With 64 bits, the words are found if they lie in the address space. -/
theorem checkedWordAddresses_ends (r : RegisterLayout) :
    EndsIff Overflows r.Addressable r.wordAddresses r.checkedWordAddresses := by
  unfold Addressable wordAddresses
  rw [List.forall_mem_map]
  exact .mapM fun k _ => elementAddress_ends r.address k (entryBytes r.accessWidth)

/-- The value of the register in some contents. -/
def valueIn (r : RegisterLayout) (c : Contents) : ℕ :=
  joinWords r.accessWidth
    (r.wordAddresses.map fun address => c.seen address &&& wordMask r.accessWidth)

/-- The words that a write of a value stores, with their addresses. -/
def stores (r : RegisterLayout) (value : ℕ) : List (ℕ × ℕ) :=
  r.wordAddresses.zip (splitWords value r.width r.accessWidth)

lemma addresses_stores (r : RegisterLayout) (value : ℕ) :
    (r.stores value).map Prod.fst = r.wordAddresses :=
  List.map_fst_zip (by simp [wordAddresses, wordCount])

lemma nodup_wordAddresses (r : RegisterLayout) : r.wordAddresses.Nodup := by
  refine List.Nodup.map (fun k k' heq => ?_) List.nodup_range
  have hmul : k * entryBytes r.accessWidth = k' * entryBytes r.accessWidth :=
    Nat.add_left_cancel heq
  exact Nat.eq_of_mul_eq_mul_right (entryBytes_pos _) hmul

section Sizes

variable {r : RegisterLayout} {c : Contents} {value : ℕ}

lemma Admitted.width_eq (h : r.Admitted) (hwide : r.isWide = false) : r.width = r.accessWidth :=
  Nat.le_antisymm (Nat.le_of_not_lt (of_decide_eq_false hwide))
    (Nat.le_of_dvd h.sizes.width_pos h.sizes.accessWidth_dvd)

lemma Admitted.wordCount_pos (h : r.Admitted) : 0 < r.wordCount :=
  Nat.div_pos (Nat.le_of_dvd h.sizes.width_pos h.sizes.accessWidth_dvd) h.sizes.accessWidth_pos

lemma Admitted.wordCount_eq_one (h : r.Admitted) (hwide : r.isWide = false) : r.wordCount = 1 := by
  rw [wordCount, h.width_eq hwide]
  exact Nat.div_self h.sizes.accessWidth_pos

lemma Admitted.wordAddresses_eq (h : r.Admitted) (hwide : r.isWide = false) :
    r.wordAddresses = [r.address] := by
  simp [wordAddresses, wordAddress, h.wordCount_eq_one hwide]

/-- The value of a register fits the register. -/
theorem Admitted.valueIn_le (h : r.Admitted) (c : Contents) : r.valueIn c ≤ r.maxValue :=
  joinWords_le h.sizes.accessWidth_pos h.sizes.accessWidth_le h.sizes.width_le
    (by simp [wordAddresses, wordCount])

/-- Once a value that fits was written, the register has it, where reads see what is stored. -/
theorem Admitted.valueIn_stores (h : r.Admitted) (hvalue : value ≤ r.maxValue)
    (hforced : ∀ address ∈ r.wordAddresses, c.forced address = none) :
    r.valueIn (c.setAll (r.stores value)) = value := by
  have hwords : (r.wordAddresses.map fun address =>
      (c.setAll (r.stores value)).seen address &&& wordMask r.accessWidth) =
      splitWords value r.width r.accessWidth := by
    have hnodup : ((r.stores value).map Prod.fst).Nodup := by
      rw [addresses_stores]
      exact r.nodup_wordAddresses
    rw [wordAddresses, List.map_map]
    refine List.map_congr_left fun k hk => ?_
    have hmem : (r.wordAddress k, (value >>> (k * r.accessWidth)) &&& wordMask r.accessWidth) ∈
        r.stores value := by
      unfold stores wordAddresses splitWords wordCount
      rw [List.zip_map', List.mem_map]
      exact ⟨k, hk, rfl⟩
    rw [Function.comp_apply,
      Contents.seen_setAll_of_mem hnodup hmem (hforced _ (List.mem_map_of_mem hk)), Nat.and_assoc,
      Nat.and_self]
  rw [valueIn, hwords]
  exact joinWords_splitWords h.sizes.accessWidth_pos h.sizes.accessWidth_le h.sizes.accessWidth_dvd
    h.sizes.width_le hvalue

end Sizes

end RegisterLayout

/-! ## Physical accesses -/

namespace Register

open Blocking

variable {r : Register}

/-- The calls of one read of the whole register. -/
def readCalls (r : Register) (block : Bool) : List Call :=
  if r.layout.isWide then r.wordTransfer.readCalls block
  else [.read r.layout.address r.layout.width r.layout.accessWidth]

/-- The calls of one write of the whole register. -/
def writeCalls (r : Register) (value : ℕ) (block : Bool) : List Call :=
  if r.layout.isWide then
    r.wordTransfer.writeCalls (splitWords value r.layout.width r.layout.accessWidth) block
  else [.write r.layout.address r.layout.width r.layout.accessWidth value]

/-- Reading gives the value of the register. -/
theorem yields_physicalRead (h : r.layout.Admitted) (c : Contents) :
    Yields r.physicalRead c (r.layout.valueIn c) c := by
  unfold physicalRead
  cases hwide : r.layout.isWide with
  | true =>
    rw [if_pos rfl]
    exact Yields.bind (Transfer.yields_readWords r.wordTransfer c) (.pure _ _)
  | false =>
    have hvalue : r.layout.valueIn c = c.seen r.layout.address &&& wordMask r.layout.width := by
      rw [RegisterLayout.valueIn, h.wordAddresses_eq hwide, List.map_singleton,
        joinWords_singleton h.sizes.accessWidth_le, h.width_eq hwide, Nat.and_assoc, Nat.and_self]
    rw [if_neg Bool.false_ne_true, hvalue]
    exact yields_read c _ _ _

theorem issues_physicalRead (h : r.layout.Admitted) (c : Contents) :
    Issues r.physicalRead c r.readCalls := by
  unfold physicalRead readCalls
  cases hwide : r.layout.isWide with
  | true =>
    simp only [if_true]
    exact Issues.bindSilent (Transfer.yields_readWords r.wordTransfer c)
      (Transfer.issues_readWords h.wordCount_pos c) (.pure _ _)
  | false =>
    simp only [Bool.false_eq_true, if_false]
    exact issues_read c _ _ _

lemma toWord_eq (h : r.layout.Admitted) (hwide : r.layout.isWide = false) {value : ℕ}
    (hvalue : value ≤ r.layout.maxValue) : r.layout.toWord value = .ok value := by
  have hwidth : r.layout.width ≤ maxWordWidth := by
    rw [h.width_eq hwide]
    exact h.sizes.accessWidth_le
  exact if_neg (Nat.not_lt.2 (hvalue.trans (valueMask_le_of_le hwidth)))

/-- Writing a value that fits stores its words. -/
theorem yields_physicalWrite (h : r.layout.Admitted) {value : ℕ}
    (hvalue : value ≤ r.layout.maxValue) (c : Contents) :
    Yields (r.physicalWrite value) c () (c.setAll (r.layout.stores value)) := by
  unfold physicalWrite
  cases hwide : r.layout.isWide with
  | true =>
    have hwords : (splitWords value r.layout.width r.layout.accessWidth).map
        (· &&& wordMask r.layout.accessWidth) =
        splitWords value r.layout.width r.layout.accessWidth := by
      simp [splitWords]
    have hstores : r.layout.stores value = r.wordTransfer.addresses.zip
        ((splitWords value r.layout.width r.layout.accessWidth).map
          (· &&& wordMask r.layout.accessWidth)) := by
      rw [hwords]
      rfl
    rw [if_pos rfl, hstores]
    exact Transfer.yields_writeWords r.wordTransfer _ (length_splitWords _ _) c
  | false =>
    have hstores : r.layout.stores value =
        [(r.layout.address, value &&& wordMask r.layout.width)] := by
      have hcount : r.layout.accessWidth / r.layout.accessWidth = 1 :=
        Nat.div_self h.sizes.accessWidth_pos
      rw [RegisterLayout.stores, h.wordAddresses_eq hwide, h.width_eq hwide]
      simp [splitWords, hcount]
    rw [if_neg Bool.false_ne_true, hstores]
    exact Yields.bind (.decide (toWord_eq h hwide hvalue) c) (yields_write c _ _ _ _)

theorem issues_physicalWrite (h : r.layout.Admitted) {value : ℕ}
    (hvalue : value ≤ r.layout.maxValue) (c : Contents) :
    Issues (r.physicalWrite value) c (r.writeCalls value) := by
  unfold physicalWrite writeCalls
  cases hwide : r.layout.isWide with
  | true =>
    simp only [if_true]
    exact Transfer.issues_writeWords (length_splitWords _ _) h.wordCount_pos c
  | false =>
    simp only [Bool.false_eq_true, if_false]
    exact Issues.decideThen (toWord_eq h hwide hvalue) (issues_write c _ _ _ _)

/-- A register that software may read gives its value. -/
theorem yields_read (h : r.layout.Admitted) (hreadable : r.layout.readable = true) (c : Contents) :
    Yields r.read c (r.layout.valueIn c) c :=
  Yields.bind (.decide (if_pos hreadable) c) (yields_physicalRead h c)

end Register

end RegisterMap
