import Mathlib
import RegisterMap.Proofs.Bus.AddressSpace
import RegisterMap.Proofs.Bus.Plans

/-!
# The runs that move a transfer

A transfer is cut into runs of words in three ways: not at all, into one run of all words, or into
one run an entry.  Whatever the stride, and also for widths that are no powers of two, the runs list
the same words: those of every entry in order, each one a word's room behind the one before it
(`runs_list_every_word`).

Reading cuts the words back into entries.  This gives one value an entry because every run brings as
many words as it has entries, or fails.

Addresses and counts have 64 bits, so all of this is about transfers whose words lie in the address
space and can be counted, and reading is about those for whose words there is room.
-/

namespace RegisterMap

namespace Transfer

open Blocking

/-- The widths are supported, and an entry that is wider than an access is made of whole words. -/
structure Divided (t : Transfer) : Prop where
  width_pos : 0 < t.width
  width_le : t.width ≤ maxValueWidth
  accessWidth_pos : 0 < t.accessWidth
  accessWidth_le : t.accessWidth ≤ maxWordWidth
  accessWidth_dvd : t.accessWidth < t.width → t.accessWidth ∣ t.width

variable {t : Transfer}

/-- Entries whose words tile the stride are moved by a single run. -/
lemma wordTransfers_of_tiled (hstride : t.stride = t.wordsPerEntry * entryBytes t.wordWidth) :
    t.wordTransfers =
      [contiguous t.address t.wordWidth t.accessWidth (t.entries * t.wordsPerEntry)] := by
  unfold wordTransfers wordWidth at *
  by_cases hone : t.wordsPerEntry = 1
  · -- the transfer itself, whose entries then lie back to back
    simp only [hone, if_true, one_mul, mul_one] at hstride ⊢
    rw [contiguous, ← hstride]
  · simp only [hone, if_false] at hstride ⊢
    rw [if_pos hstride]
    rfl

namespace Divided

variable (h : t.Divided)
include h

/-- Only entries that are wider than an access are split. -/
lemma wordsPerEntry_eq_one_iff : t.wordsPerEntry = 1 ↔ ¬ t.accessWidth < t.width := by
  unfold wordsPerEntry
  by_cases hwide : t.accessWidth < t.width
  · obtain ⟨n, hn⟩ := h.accessWidth_dvd hwide
    rw [if_pos hwide, hn, Nat.mul_div_cancel_left n h.accessWidth_pos]
    have hne : n ≠ 1 := by
      rintro rfl
      omega
    simpa [hne] using hn ▸ hwide
  · simp [hwide]

lemma wordsPerEntry_pos : 0 < t.wordsPerEntry := by
  unfold wordsPerEntry
  split
  · next hwide => exact Nat.div_pos hwide.le h.accessWidth_pos
  · exact Nat.one_pos

lemma wordWidth_eq :
    t.wordWidth = if t.accessWidth < t.width then t.accessWidth else t.width := by
  simp only [wordWidth, h.wordsPerEntry_eq_one_iff, ite_not]

/-- Reading fails or gives one value for every entry. -/
lemma length_readValues {σ : Type} (bus : Bus σ) (w : World σ) :
    (∃ e, (Blocking.run t.readValues bus w).1 = .error e) ∨
      ∃ values, (Blocking.run t.readValues bus w).1 = .ok values ∧ values.length = t.entries := by
  have hwidths : t.checkWidths = .ok () := checkWidths_of_le h.width_le h.accessWidth_le
  obtain ⟨calls, -, hend⟩ := (follows_readValues hwidths).counted w
  cases hrun : (Blocking.run t.readValues bus w).1 with
  | error e => exact Or.inl ⟨e, rfl⟩
  | ok values =>
    rw [hrun] at hend
    obtain ⟨-, -, rfl, hcount⟩ := hend
    rw [countP_reads] at hcount
    exact Or.inr ⟨_, rfl, length_joinEntries h.wordsPerEntry_pos hcount⟩

end Divided

/-- Let the words of a transfer lie in the address space and be countable.  Computed with 64 bits, the
runs of the transfer list the words of every entry in order, and all of them move words of the same
width.  They are a single run that lies back to back whenever the words tile the stride.  If there
is room for the words, then on every bus reading fails or gives exactly one value for every entry. -/
theorem runs_list_every_word (t : Transfer) (h : t.Divided) (hspace : t.Addressable)
    (hcount : t.Countable) :
    let width := if t.accessWidth < t.width then t.accessWidth else t.width
    let whole := contiguous t.address width t.accessWidth (t.entries * t.wordsPerEntry)
    t.checkedWordTransfers = .ok t.wordTransfers ∧
      t.checkedWords = .ok ((List.range t.entries).flatMap fun i =>
        (List.range t.wordsPerEntry).map fun k =>
          t.address + i * t.stride + k * entryBytes width) ∧
      (∀ run ∈ t.wordTransfers, run.width = width ∧ run.accessWidth = t.accessWidth) ∧
      (t.stride = t.wordsPerEntry * entryBytes width →
        t.wordTransfers = [whole] ∧ whole.isContiguous = true) ∧
      (t.Buffered → t.checkedRoom = .ok () ∧ ∀ {σ : Type} (bus : Bus σ) (w : World σ),
        (∃ e, (Blocking.run t.readValues bus w).1 = .error e) ∨
          ∃ values, (Blocking.run t.readValues bus w).1 = .ok values ∧
            values.length = t.entries) := by
  intro width whole
  have hwidth : t.wordWidth = width := h.wordWidth_eq
  refine ⟨checkedWordTransfers_eq h.wordsPerEntry_pos hspace hcount, ?_, fun run hrun => ?_,
    fun hstride => ?_, fun hroom => ⟨hroom.checkedRoom_eq h.wordsPerEntry_pos, fun bus w =>
      h.length_readValues bus w⟩⟩
  · rw [checkedWords_eq h.wordsPerEntry_pos hspace hcount, ← hwidth]
    rfl
  · exact ⟨(width_of_mem_wordTransfers hrun).trans hwidth, accessWidth_of_mem_wordTransfers hrun⟩
  · have hwhole : t.wordTransfers = [whole] := by
      rw [← hwidth] at hstride
      rw [wordTransfers_of_tiled hstride, hwidth]
    exact ⟨hwhole, beq_self_eq_true _⟩

/-- Three words of 32 bits an entry tile a stride of 12 bytes though an entry of 96 bits has room
for 16, and with a stride of 16 bytes they leave a gap behind every entry, so that each is read in
words of its own.  The gap is never accessed. -/
theorem three_words_an_entry :
    let tiled : Transfer := ⟨0x100, 96, 32, 2, 12⟩
    let spaced : Transfer := ⟨0x100, 96, 32, 2, 16⟩
    let w : World Simulator := ⟨.new, (LockForest.empty.create none).1, []⟩
    let r := Blocking.run spaced.readValues Simulator.toBus w
    tiled.wordTransfers = [⟨0x100, 32, 32, 6, 4⟩] ∧
      spaced.checkedWords = .ok [0x100, 0x104, 0x108, 0x110, 0x114, 0x118] ∧
      r.2.trace = [.readBlock 0x100 32 32 3, .readBlock 0x110 32 32 3] ∧
      ∃ values, r.1 = .ok values ∧ values.length = 2 := by
  intro tiled spaced w r
  have hdivided : ∀ stride, (⟨0x100, 96, 32, 2, stride⟩ : Transfer).Divided := fun stride =>
    ⟨by simp, by simp [maxValueWidth], by simp, by simp [maxWordWidth], fun _ => ⟨3, rfl⟩⟩
  have htiled := runs_list_every_word tiled (hdivided 12) (by decide)
    (Buffered.countable (by decide) (by decide))
  have hroom : spaced.Buffered := by decide
  have hspaced := runs_list_every_word spaced (hdivided 16) (by decide)
    (hroom.countable (by decide))
  obtain ⟨-, hwords, -, -, hread⟩ := hspaced
  refine ⟨(htiled.2.2.2.1 (by decide +kernel)).1.trans (by decide +kernel),
    hwords.trans (by decide +kernel), by decide +kernel, ?_⟩
  rcases (hread hroom).2 Simulator.toBus w with ⟨e, hfails⟩ | hvalues
  · have hends : (Blocking.run spaced.readValues Simulator.toBus w).1.isOk = true := by
      decide +kernel
    rw [hfails] at hends
    cases hends
  · exact hvalues

end Transfer

end RegisterMap
