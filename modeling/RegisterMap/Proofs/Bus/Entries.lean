import Mathlib
import RegisterMap.Proofs.Bus.Cells

/-!
# Entries of whole words

The transfers of registers and memories have entries that are made of whole words, each of which one
access can move (`Transfer.Whole`).  Then the value of an entry is what its words join to, and the
cases in which an entry takes one access and in which it takes several are one.

Where no two words of a transfer share an address (`Transfer.Apart`), every entry has the value that
was written to it.  For this it is enough that the words of an entry fit between the addresses of two
entries (`Transfer.Apart.of_le`).
-/

namespace RegisterMap

namespace Transfer

open Blocking

variable {t : Transfer} {c : Contents} {values : List ℕ} {cells : List (ℕ × ℕ)} {i v : ℕ}

/-- The entries are made of whole words that one access can move. -/
structure Whole (t : Transfer) : Prop where
  width_pos : 0 < t.width
  width_le : t.width ≤ maxValueWidth
  accessWidth_pos : 0 < t.accessWidth
  accessWidth_le : t.accessWidth ≤ maxWordWidth
  accessWidth_dvd : t.accessWidth ∣ t.width

/-- The value of an entry in some contents. -/
def valueIn (t : Transfer) (c : Contents) (i : ℕ) : ℕ :=
  joinWords t.accessWidth
    ((t.wordAddresses i).map fun address => c.seen address &&& wordMask t.accessWidth)

namespace Whole

variable (h : t.Whole)
include h

lemma wordsPerEntry_eq : t.wordsPerEntry = t.width / t.accessWidth := by
  have hle : t.accessWidth ≤ t.width := Nat.le_of_dvd h.width_pos h.accessWidth_dvd
  unfold wordsPerEntry
  by_cases hlt : t.accessWidth < t.width
  · rw [if_pos hlt]
  · have hequal : t.width = t.accessWidth := by omega
    rw [if_neg hlt, hequal, Nat.div_self h.accessWidth_pos]

lemma wordsPerEntry_pos : 0 < t.wordsPerEntry := by
  rw [h.wordsPerEntry_eq]
  exact Nat.div_pos (Nat.le_of_dvd h.width_pos h.accessWidth_dvd) h.accessWidth_pos

/-- An entry of a single word is as wide as an access. -/
lemma width_eq (hone : t.wordsPerEntry = 1) : t.width = t.accessWidth := by
  rw [h.wordsPerEntry_eq] at hone
  rw [← Nat.div_mul_cancel h.accessWidth_dvd, hone, one_mul]

lemma wordWidth_eq : t.wordWidth = t.accessWidth := by
  unfold wordWidth
  split
  · next hone => exact h.width_eq hone
  · rfl

lemma checkWidths_eq : t.checkWidths = .ok () := checkWidths_of_le h.width_le h.accessWidth_le

/-! ## Reading -/

lemma joinEntry_wordsIn : t.joinEntry (t.wordsIn c i) = t.valueIn c i := by
  unfold joinEntry wordsIn valueIn
  rw [h.wordWidth_eq]
  split
  · next hone => simp [wordAddresses, hone, joinWords_singleton h.accessWidth_le]
  · rfl

/-- Reading gives the values of all entries. -/
theorem yields_readValues (c : Contents) :
    Yields t.readValues c ((List.range t.entries).map (t.valueIn c)) c := by
  have hread := t.yields_readValues c h.checkWidths_eq h.wordsPerEntry_pos
  simp only [h.joinEntry_wordsIn] at hread
  exact hread

/-! ## Writing -/

lemma map_entryWords (v : ℕ) : (t.entryWords v).map (· &&& wordMask t.wordWidth) =
    splitWords v t.width t.accessWidth := by
  rw [h.wordWidth_eq, entryWords]
  split
  · next hone =>
    rw [h.wordsPerEntry_eq] at hone
    simp [splitWords, hone]
  · simp [splitWords, Function.comp_def]

/-- Writing stores the words of all values that fit. -/
theorem yields_writeValues (hlength : values.length = t.entries)
    (hvalues : ∀ v ∈ values, v ≤ valueMask t.width) (c : Contents) :
    Yields (t.writeValues values) c () (c.setAll (t.stores values)) := by
  refine t.yields_writeValues values c h.checkWidths_eq hlength fun hone v hv => ?_
  have hwidth : t.width ≤ maxWordWidth := by
    rw [h.width_eq hone]
    exact h.accessWidth_le
  exact (hvalues v hv).trans (valueMask_le_of_le hwidth)

/-- The word that is stored at an address of an entry. -/
lemma mem_stores (hi : i < t.entries) (hv : values[i]? = some v) {k : ℕ}
    (hk : k < t.wordsPerEntry) :
    (t.wordAddress i k, (v >>> (k * t.accessWidth)) &&& wordMask t.accessWidth) ∈
      t.stores values := by
  refine List.mem_flatMap.2 ⟨(i, v), ?_, ?_⟩
  · obtain ⟨hless, hvalue⟩ := List.getElem?_eq_some_iff.1 hv
    refine List.mem_iff_getElem.2 ⟨i, by simpa using ⟨hi, hless⟩, ?_⟩
    rw [List.getElem_zip, List.getElem_range, hvalue]
  · rw [h.map_entryWords, wordAddresses, splitWords, ← h.wordsPerEntry_eq, List.zip_map',
      List.mem_map]
    exact ⟨k, List.mem_range.2 hk, rfl⟩

end Whole

/-- The words are stored at the addresses of the entries. -/
lemma addresses_stores (hlength : values.length = t.entries) :
    (t.stores values).map Prod.fst = (List.range t.entries).flatMap t.wordAddresses := by
  rw [stores_eq_zip hlength]
  exact List.map_fst_zip (by simp [List.length_flatMap, hlength])

/-- Words that are stored elsewhere do not change an entry. -/
lemma valueIn_setAll_of_notMem (h : ∀ address ∈ t.wordAddresses i, address ∉ cells.map Prod.fst) :
    t.valueIn (c.setAll cells) i = t.valueIn c i := by
  unfold valueIn
  congr 1
  refine List.map_congr_left fun address haddress => ?_
  rw [Contents.seen, Contents.seen, Contents.forced_setAll,
    Contents.stored_setAll_of_notMem (h address haddress)]

/-! ## Words apart -/

/-- No two words share an address. -/
def Apart (t : Transfer) : Prop :=
  ∀ i < t.entries, ∀ j < t.entries, ∀ k < t.wordsPerEntry, ∀ k' < t.wordsPerEntry,
    t.wordAddress i k = t.wordAddress j k' → i = j ∧ k = k'

namespace Apart

/-- The words are apart if those of an entry fit between the addresses of two entries. -/
theorem of_le (hroom : t.wordsPerEntry * entryBytes t.wordWidth ≤ t.stride) : t.Apart := by
  intro i _ j _ k hk k' hk' heq
  have hpos : 0 < entryBytes t.wordWidth := entryBytes_pos _
  have hinside : ∀ n < t.wordsPerEntry, n * entryBytes t.wordWidth < t.stride := fun n hn =>
    lt_of_lt_of_le (Nat.mul_lt_mul_of_pos_right hn hpos) hroom
  have hoffset := hinside k hk
  have hoffset' := hinside k' hk'
  simp only [wordAddress, entryAddress] at heq
  have hentry : i = j := by
    by_contra hne
    rcases Nat.lt_or_gt_of_ne hne with hlt | hlt
    · have hstep := Nat.mul_le_mul_right t.stride hlt
      rw [Nat.succ_mul] at hstep
      omega
    · have hstep := Nat.mul_le_mul_right t.stride hlt
      rw [Nat.succ_mul] at hstep
      omega
  subst hentry
  exact ⟨rfl, Nat.eq_of_mul_eq_mul_right hpos (by omega)⟩

variable (h : t.Apart)
include h

lemma disjoint {j : ℕ} (hi : i < t.entries) (hj : j < t.entries) (hne : i ≠ j) :
    (t.wordAddresses i).Disjoint (t.wordAddresses j) := by
  intro address hmem hmem'
  obtain ⟨k, hk, rfl⟩ := List.mem_map.1 hmem
  obtain ⟨k', hk', heq⟩ := List.mem_map.1 hmem'
  have hsame := h j hj i hi k' (List.mem_range.1 hk') k (List.mem_range.1 hk) heq
  exact hne hsame.1.symm

lemma nodup : ((List.range t.entries).flatMap t.wordAddresses).Nodup := by
  rw [List.nodup_flatMap]
  constructor
  · intro i hi
    have hi' := List.mem_range.1 hi
    refine List.Nodup.map_on (fun k hk k' hk' heq => ?_) List.nodup_range
    exact (h i hi' i hi' k (List.mem_range.1 hk) k' (List.mem_range.1 hk') heq).2
  · refine List.Nodup.pairwise_of_forall_ne List.nodup_range fun i hi j hj hne => ?_
    exact h.disjoint (List.mem_range.1 hi) (List.mem_range.1 hj) hne

/-- An entry has the value that was written to it, where reads see what is stored. -/
theorem valueIn_stores (hwhole : t.Whole) (hlength : values.length = t.entries)
    (hv : values[i]? = some v) (hvalue : v ≤ valueMask t.width)
    (hforced : ∀ address ∈ t.wordAddresses i, c.forced address = none) :
    t.valueIn (c.setAll (t.stores values)) i = v := by
  have hi : i < t.entries := hlength ▸ (List.getElem?_eq_some_iff.1 hv).1
  have hnodup : ((t.stores values).map Prod.fst).Nodup := by
    rw [addresses_stores hlength]
    exact h.nodup
  have hwords : ((t.wordAddresses i).map fun address =>
      (c.setAll (t.stores values)).seen address &&& wordMask t.accessWidth) =
      splitWords v t.width t.accessWidth := by
    rw [splitWords, ← hwhole.wordsPerEntry_eq, wordAddresses, List.map_map]
    refine List.map_congr_left fun k hk => ?_
    have hmem := hwhole.mem_stores hi hv (List.mem_range.1 hk)
    rw [Function.comp_apply,
      Contents.seen_setAll_of_mem hnodup hmem (hforced _ (List.mem_map_of_mem hk)), Nat.and_assoc,
      Nat.and_self]
  rw [valueIn, hwords]
  exact joinWords_splitWords hwhole.accessWidth_pos hwhole.accessWidth_le hwhole.accessWidth_dvd
    hwhole.width_le hvalue

end Apart

end Transfer

end RegisterMap
