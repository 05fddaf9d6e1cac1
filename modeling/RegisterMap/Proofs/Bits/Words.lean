import Mathlib
import RegisterMap.Bits

/-!
# Bits of words and values

What the masks, the joining of words and the splitting of a value do to single bits.  Everything
about values that are moved as words follows from these facts: a value of whole words is split and
joined again without loss, and a bit of the joined value is a bit of one word.

The room that an entry takes in memory is a power of two, so of two entries the room of the narrower
one divides the room of the wider one.
-/

namespace RegisterMap

/-! ## Masks -/

lemma testBit_wordMask (width i : ℕ) :
    (wordMask width).testBit i = decide (i < min width maxWordWidth) := by
  simp only [wordMask, valueCount, Nat.pow_eq, Nat.testBit_two_pow_sub_one]

lemma testBit_valueMask (width i : ℕ) :
    (valueMask width).testBit i = decide (i < min width maxValueWidth) := by
  simp only [valueMask, valueCount, Nat.pow_eq, Nat.testBit_two_pow_sub_one]

lemma testBit_truncate (n i : ℕ) :
    (truncate n).testBit i = (decide (i < maxValueWidth) && n.testBit i) := by
  simp only [truncate, valueCount, Nat.pow_eq, Nat.testBit_mod_two_pow]

lemma testBit_clearBits (base mask bit : ℕ) : (clearBits base mask).testBit bit =
    (base.testBit bit && (mask.testBit bit ^^ decide (bit < maxValueWidth))) := by
  rw [clearBits, Nat.testBit_and, Nat.testBit_xor, testBit_valueMask, Nat.min_self]

/-- A value that fits a width has no bit from the width on. -/
lemma testBit_of_le_valueMask {value width i : ℕ} (hvalue : value ≤ valueMask width)
    (hi : width ≤ i) : value.testBit i = false := by
  have hmask : valueMask width < 2 ^ (min width maxValueWidth) := by
    have hpos : 0 < 2 ^ (min width maxValueWidth) := Nat.two_pow_pos _
    simp only [valueMask, valueCount, Nat.pow_eq]
    omega
  refine Nat.testBit_eq_false_of_lt (lt_of_le_of_lt hvalue (lt_of_lt_of_le hmask ?_))
  exact Nat.pow_le_pow_right (by decide) (by omega)

/-- A value without bits from a width on fits the width. -/
lemma le_valueMask_of_testBit {value width : ℕ} (hwidth : width ≤ maxValueWidth)
    (h : ∀ i, width ≤ i → value.testBit i = false) : value ≤ valueMask width := by
  have hlt : value < 2 ^ width := Nat.lt_pow_two_of_testBit _ h
  rw [valueMask, valueCount, Nat.min_eq_left hwidth, Nat.pow_eq]
  omega

lemma valueMask_mono {width width' : ℕ} (h : width ≤ width') : valueMask width ≤ valueMask width' := by
  have hpow : 2 ^ min width maxValueWidth ≤ 2 ^ min width' maxValueWidth :=
    Nat.pow_le_pow_right (by decide) (by omega)
  simp only [valueMask, valueCount, Nat.pow_eq]
  omega

/-- The values of entries that one access moves are words. -/
lemma valueMask_le_of_le {width : ℕ} (h : width ≤ maxWordWidth) :
    valueMask width ≤ wordMask maxWordWidth := by
  have hpow : 2 ^ min width maxValueWidth ≤ 2 ^ min maxWordWidth maxWordWidth :=
    Nat.pow_le_pow_right (by decide) (by simp only [maxWordWidth] at h ⊢; omega)
  simp only [valueMask, wordMask, valueCount, Nat.pow_eq]
  omega

/-! ## Values put together -/

lemma testBit_foldl_or (l : List ℕ) (i : ℕ) :
    (l.foldl (· ||| ·) 0).testBit i = l.any (·.testBit i) := by
  have hfrom : ∀ (l : List ℕ) (start : ℕ), (l.foldl (· ||| ·) start).testBit i =
      (start.testBit i || l.any (·.testBit i)) := by
    intro l
    induction l with
    | nil => simp
    | cons n rest ih =>
      intro start
      rw [List.foldl_cons, ih, Nat.testBit_or, List.any_cons, Bool.or_assoc]
  rw [hfrom, Nat.zero_testBit, Bool.false_or]

section Words

variable {wordWidth : ℕ}

/-- A bit of a joined value is a bit of one word. -/
theorem testBit_joinWords (hpos : 0 < wordWidth) (hle : wordWidth ≤ maxWordWidth)
    (words : List ℕ) (i : ℕ) :
    (joinWords wordWidth words).testBit i =
      (decide (i < maxValueWidth) &&
        (words.getD (i / wordWidth) 0).testBit (i % wordWidth)) := by
  induction words generalizing i with
  | nil => simp [joinWords]
  | cons word rest ih =>
    rw [joinWords, testBit_truncate, Nat.testBit_or, Nat.testBit_and, testBit_wordMask,
      Nat.testBit_shiftLeft, ih, Nat.min_eq_left hle]
    by_cases hi : i < wordWidth
    · -- the bit lies in the first word
      simp [hi, Nat.not_le_of_lt hi, Nat.div_eq_of_lt hi, Nat.mod_eq_of_lt hi]
    · have hdiv : i / wordWidth = (i - wordWidth) / wordWidth + 1 := by
        rw [← Nat.add_div_right _ hpos, Nat.sub_add_cancel (by omega)]
      have hmod : i % wordWidth = (i - wordWidth) % wordWidth := by
        rw [← Nat.add_mod_right (i - wordWidth) wordWidth, Nat.sub_add_cancel (by omega)]
      by_cases hmax : i < maxValueWidth
      · have hless : i - wordWidth < maxValueWidth := by omega
        simp [hi, hmax, hless, hdiv, hmod, Nat.le_of_not_lt hi]
      · simp [hmax]

/-- What words join to fits the width that they fill. -/
lemma joinWords_le {words : List ℕ} {width : ℕ} (hpos : 0 < wordWidth)
    (hle : wordWidth ≤ maxWordWidth) (hwidth : width ≤ maxValueWidth)
    (hcount : words.length ≤ width / wordWidth) : joinWords wordWidth words ≤ valueMask width := by
  refine le_valueMask_of_testBit hwidth fun i hi => ?_
  have hword : words.length ≤ i / wordWidth := hcount.trans (Nat.div_le_div_right hi)
  rw [testBit_joinWords hpos hle, List.getD_eq_default _ _ hword]
  simp

lemma joinWords_singleton (hle : wordWidth ≤ maxWordWidth) (word : ℕ) :
    joinWords wordWidth [word] = word &&& wordMask wordWidth := by
  refine Nat.eq_of_testBit_eq fun i => ?_
  have hmax : maxWordWidth ≤ maxValueWidth := by decide
  simp only [joinWords, Nat.zero_shiftLeft, Nat.or_zero, testBit_truncate, Nat.testBit_and,
    testBit_wordMask]
  by_cases hi : i < min wordWidth maxWordWidth
  · have hless : i < maxValueWidth := by omega
    simp [hless]
  · simp [hi]

@[simp] lemma length_splitWords (value width : ℕ) :
    (splitWords value width wordWidth).length = width / wordWidth := by
  simp [splitWords]

lemma getD_splitWords (value width i : ℕ) :
    (splitWords value width wordWidth).getD i 0 =
      if i < width / wordWidth then (value >>> (i * wordWidth)) &&& wordMask wordWidth else 0 := by
  by_cases h : i < width / wordWidth <;> simp [splitWords, List.getD, h]

/-- A value of whole words is what its words join to. -/
theorem joinWords_splitWords {value width : ℕ} (hpos : 0 < wordWidth)
    (hle : wordWidth ≤ maxWordWidth) (hdvd : wordWidth ∣ width) (hwidth : width ≤ maxValueWidth)
    (hvalue : value ≤ valueMask width) :
    joinWords wordWidth (splitWords value width wordWidth) = value := by
  refine Nat.eq_of_testBit_eq fun i => ?_
  rw [testBit_joinWords hpos hle, getD_splitWords]
  by_cases hi : i < width
  · have hdiv : i / wordWidth < width / wordWidth := Nat.div_lt_div_of_lt_of_dvd hdvd hi
    have hmod : i % wordWidth < wordWidth := Nat.mod_lt _ hpos
    have hindex : i / wordWidth * wordWidth + i % wordWidth = i := Nat.div_add_mod' i wordWidth
    rw [if_pos hdiv, Nat.testBit_and, Nat.testBit_shiftRight, hindex, testBit_wordMask,
      Nat.min_eq_left hle]
    simp [hmod, lt_of_lt_of_le hi hwidth]
  · have hdiv : ¬ i / wordWidth < width / wordWidth := by
      rw [Nat.not_lt]
      exact Nat.div_le_div_right (Nat.le_of_not_lt hi)
    rw [if_neg hdiv, testBit_of_le_valueMask hvalue (Nat.le_of_not_lt hi)]
    simp

end Words

/-! ## Room in memory -/

/-- The room of an entry is the least power of two that holds its bytes. -/
lemma exists_entryBytes_eq (width : ℕ) (hpos : 0 < width) :
    ∃ k, entryBytes width = 2 ^ k ∧ (width + 7) / 8 ≤ 2 ^ k ∧ 2 ^ k < 2 * ((width + 7) / 8) := by
  by_cases hone : (width + 7) / 8 ≤ 1
  · exact ⟨0, by simp [entryBytes, hone], by omega, by omega⟩
  · have hne : (width + 7) / 8 - 1 ≠ 0 := by omega
    have hlow := Nat.log2_self_le hne
    have hhigh := Nat.lt_log2_self (n := (width + 7) / 8 - 1)
    refine ⟨((width + 7) / 8 - 1).log2 + 1, by simp [entryBytes, hone, valueCount], ?_, ?_⟩
    · omega
    · rw [Nat.pow_succ]
      omega

lemma entryBytes_pos (width : ℕ) : 0 < entryBytes width := by
  unfold entryBytes
  dsimp only
  split
  · decide
  · exact Nat.two_pow_pos _

/-- The room of an entry holds its bits. -/
lemma width_le_entryBytes (width : ℕ) : width ≤ 8 * entryBytes width := by
  rcases Nat.eq_zero_or_pos width with rfl | hpos
  · exact Nat.zero_le _
  · obtain ⟨k, hk, hle, -⟩ := exists_entryBytes_eq width hpos
    rw [hk]
    omega

/-- A wider entry takes a multiple of the room of a narrower one. -/
lemma entryBytes_dvd {narrow wide : ℕ} (hpos : 0 < narrow) (h : narrow ≤ wide) :
    entryBytes narrow ∣ entryBytes wide := by
  obtain ⟨j, hj, -, hlt⟩ := exists_entryBytes_eq narrow hpos
  obtain ⟨k, hk, hle, -⟩ := exists_entryBytes_eq wide (by omega)
  have hjk : j < k + 1 :=
    (Nat.pow_lt_pow_iff_right (by decide : 1 < 2)).1 (by rw [Nat.pow_succ]; omega)
  rw [hj, hk]
  exact Nat.pow_dvd_pow 2 (by omega)

end RegisterMap
