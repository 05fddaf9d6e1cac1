import Mathlib
import RegisterMap.Proofs.Bus.Cells
import RegisterMap.Proofs.Overflow

/-!
# Transfers in the address space

Addresses of entries are computed with 64 bits, and so is the number of words of a transfer that is
moved by a single run.  Many runs are listed in a buffer, and reading makes room for all words before
it begins.  None of this goes wrong as long as the words of a transfer lie in the address space
(`Addressable`) and there are not too many of them (`Countable`, `Buffered`): its runs and their
addresses are then the same as with natural numbers (`checkedWordTransfers_eq`,
`checkedWords_eq`).
-/

namespace RegisterMap

namespace Transfer

variable (t : Transfer)

/-! ## Computing with 64 bits -/

/-- Size of a run in a list of runs, in bytes. -/
def runBytes : ℕ := 32

/-- Size of a value of an entry, in bytes. -/
def valueBytes : ℕ := 16

/-- The addresses of the entries, computed with 64 bits. -/
def checkedAddresses : Except Overflow (List ℕ) :=
  (List.range t.entries).mapM fun i => elementAddress t.address i t.stride

/-- The runs that move the entries, where addresses and counts are computed with 64 bits. -/
def checkedWordTransfers : Except Overflow (List Transfer) :=
  if t.wordsPerEntry = 1 then .ok [t]
  else if t.stride = t.wordsPerEntry * entryBytes t.accessWidth then
    ([t.wordRun t.address ·]) <$> checkedProduct t.entries t.wordsPerEntry
  else do
    checkedBuffer t.entries runBytes
    (List.range t.entries).mapM fun i =>
      (t.wordRun · t.wordsPerEntry) <$> elementAddress t.address i t.stride

/-- The addresses of all words, run by run. -/
def checkedWords : Except Overflow (List ℕ) := do
  let runs ← t.checkedWordTransfers
  List.flatten <$> runs.mapM checkedAddresses

/-- The room that reading makes for the words, and in the end for the values. -/
def checkedRoom : Except Overflow Unit := do
  checkedBuffer (← checkedProduct t.entries t.wordsPerEntry) (entryBytes maxWordWidth)
  checkedBuffer t.entries valueBytes

/-! ## What fits -/

/-- All words of the transfer lie in the address space. -/
def Addressable : Prop :=
  ∀ i < t.entries, ∀ address ∈ t.wordAddresses i, address < valueCount addressWidth

instance : Decidable t.Addressable :=
  inferInstanceAs (Decidable (∀ i < t.entries, ∀ address ∈ t.wordAddresses i, address < _))

/-- The words can be counted and the runs listed. -/
structure Countable : Prop where
  words : t.entries * t.wordsPerEntry < valueCount addressWidth
  runs : t.wordsPerEntry ≠ 1 → t.stride ≠ t.wordsPerEntry * entryBytes t.accessWidth →
    t.entries * runBytes < valueCount (addressWidth - 1)

/-- A buffer has room for as many values as there are words. -/
def Buffered : Prop := t.entries * t.wordsPerEntry * valueBytes < valueCount (addressWidth - 1)

instance : Decidable t.Buffered :=
  inferInstanceAs (Decidable (_ < valueCount (addressWidth - 1)))

variable {t}

lemma checkedAddresses_ends : EndsIff Overflows
    (∀ address ∈ t.addresses, address < valueCount addressWidth) t.addresses t.checkedAddresses := by
  unfold addresses
  rw [List.forall_mem_map]
  exact .mapM fun i _ => elementAddress_ends t.address i t.stride

section Words

variable (hpos : 0 < t.wordsPerEntry)
include hpos

/-- An entry begins with its first word. -/
lemma Addressable.entryAddress_lt (h : t.Addressable) {i : ℕ} (hi : i < t.entries) :
    t.entryAddress i < valueCount addressWidth := by
  refine h i hi _ (List.mem_map.2 ⟨0, List.mem_range.2 hpos, ?_⟩)
  rw [wordAddress, Nat.zero_mul, Nat.add_zero]

/-- The runs of a transfer whose words lie in the address space, and are not too many. -/
theorem checkedWordTransfers_eq (hspace : t.Addressable) (hcount : t.Countable) :
    t.checkedWordTransfers = .ok t.wordTransfers := by
  unfold checkedWordTransfers wordTransfers
  by_cases hone : t.wordsPerEntry = 1
  · rw [if_pos hone, if_pos hone]
  rw [if_neg hone, if_neg hone]
  split
  · rw [(checkedProduct_ends _ _).ends hcount.words]
    rfl
  · next hstride =>
    have hroom : checkedBuffer t.entries runBytes = .ok () :=
      if_pos (hcount.runs hone hstride)
    have hruns := EndsIff.mapM (l := List.range t.entries) fun i _ =>
      (elementAddress_ends t.address i t.stride).map (t.wordRun · t.wordsPerEntry)
    rw [bind_of_eq_ok hroom]
    exact hruns.ends fun i hi => hspace.entryAddress_lt hpos (List.mem_range.1 hi)

/-- The addresses of the words of a transfer whose words lie in the address space. -/
theorem checkedWords_eq (hspace : t.Addressable) (hcount : t.Countable) :
    t.checkedWords = .ok ((List.range t.entries).flatMap t.wordAddresses) := by
  have hruns := EndsIff.mapM (l := t.wordTransfers) fun run _ => run.checkedAddresses_ends
  unfold checkedWords
  rw [bind_of_eq_ok (checkedWordTransfers_eq hpos hspace hcount), ← flatMap_addresses,
    hruns.ends fun run hrun address haddress => ?_]
  · rfl
  · -- the addresses of the runs are those of the words
    have hmem : address ∈ t.wordTransfers.flatMap addresses :=
      List.mem_flatMap.2 ⟨run, hrun, haddress⟩
    rw [flatMap_addresses] at hmem
    obtain ⟨i, hi, hword⟩ := List.mem_flatMap.1 hmem
    exact hspace i (List.mem_range.1 hi) address hword

/-- What a buffer has room for can be counted. -/
lemma Buffered.countable (h : t.Buffered) : t.Countable := by
  have hless : t.entries * t.wordsPerEntry * 16 < 2 ^ 63 := h
  refine ⟨show _ < 2 ^ 64 by omega, fun hone _ => ?_⟩
  -- more than one word an entry, so twice as many words as runs
  have hruns : t.entries * 2 ≤ t.entries * t.wordsPerEntry := Nat.mul_le_mul_left _ (by omega)
  change t.entries * 32 < 2 ^ 63
  omega

lemma Buffered.checkedRoom_eq (h : t.Buffered) : t.checkedRoom = .ok () := by
  have hless : t.entries * t.wordsPerEntry * 16 < 2 ^ 63 := h
  have hentries : t.entries ≤ t.entries * t.wordsPerEntry := Nat.le_mul_of_pos_right _ hpos
  have hwords : checkedBuffer (t.entries * t.wordsPerEntry) (entryBytes maxWordWidth) = .ok () :=
    if_pos (show _ * 8 < 2 ^ 63 by omega)
  have hvalues : checkedBuffer t.entries valueBytes = .ok () :=
    if_pos (show _ * 16 < 2 ^ 63 by omega)
  unfold checkedRoom
  rw [bind_of_eq_ok ((checkedProduct_ends _ _).ends (h.countable hpos).words),
    bind_of_eq_ok hwords, hvalues]

end Words

end Transfer

end RegisterMap
