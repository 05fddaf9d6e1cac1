import Mathlib
import RegisterMap.Field.Layout
import RegisterMap.Proofs.Bits.Words

/-!
# Where the bits of a field lie

An encoded field value has bits within its field alone, and each of them is one bit of the value:
counted from the lowest bit of the field, or from the highest one where the field is reversed
(`testBit_encode`).  Nothing is lost at the upper end of the widest register, since the field lies
below it.
-/

namespace RegisterMap

/-! ## Reversal -/

lemma reverseBits_lt (value width : ℕ) : reverseBits value width < 2 ^ width := by
  induction width generalizing value with
  | zero => simp [reverseBits]
  | succ width ih =>
    have hbit : value % 2 ≤ 1 := by omega
    have hrest := ih (value / 2)
    have htop : value % 2 * 2 ^ width ≤ 1 * 2 ^ width := Nat.mul_le_mul_right _ hbit
    rw [reverseBits, valueCount, Nat.pow_eq, Nat.pow_succ]
    omega

/-- Reversal exchanges bit `i` and bit `width - 1 - i`. -/
theorem testBit_reverseBits (value width i : ℕ) :
    (reverseBits value width).testBit i =
      (decide (i < width) && value.testBit (width - 1 - i)) := by
  induction width generalizing value with
  | zero => simp [reverseBits]
  | succ width ih =>
    rw [reverseBits, valueCount, Nat.pow_eq, Nat.mul_comm,
      Nat.testBit_two_pow_mul_add _ (reverseBits_lt _ _), ih]
    rcases Nat.lt_trichotomy i width with hlt | rfl | hgt
    · -- the bit comes from the rest of the value, which begins at bit 1
      have hindex : width + 1 - 1 - i = width - 1 - i + 1 := by omega
      rw [if_pos hlt, hindex, Nat.testBit_add_one]
      simp [hlt, Nat.lt_succ_of_lt hlt]
    · simp
    · have hmod : value % 2 < 2 ^ (i - width) :=
        lt_of_lt_of_le (Nat.mod_lt _ (by decide)) (Nat.le_self_pow (by omega) 2)
      rw [if_neg (by omega), Nat.testBit_lt_two_pow hmod]
      simp [Nat.not_lt.2 (Nat.succ_le_of_lt hgt)]

namespace Geometry

/-! ## Fields in a register -/

/-- The field has bits, and all of them are bits of a register of the given width. -/
structure Within (g : Geometry) (width : ℕ) : Prop where
  width_pos : 0 < g.width
  high_lt : g.high < width

/-- The register bit is a bit of the field. -/
def Covers (g : Geometry) (bit : ℕ) : Prop := g.low ≤ bit ∧ bit ≤ g.high

instance (g : Geometry) (bit : ℕ) : Decidable (g.Covers bit) :=
  inferInstanceAs (Decidable (_ ∧ _))

/-- The bit of the field value that a register bit of the field holds. -/
def valueBit (g : Geometry) (bit : ℕ) : ℕ := if g.reversed then g.high - bit else bit - g.low

variable {g : Geometry} {width value bits : ℕ}

lemma Within.covers_iff (h : g.Within width) (bit : ℕ) :
    g.Covers bit ↔ g.low ≤ bit ∧ bit - g.low < g.width := by
  have := h.width_pos
  unfold Covers high
  omega

lemma Within.lt_of_covers (h : g.Within width) {bit : ℕ} (hbit : g.Covers bit) : bit < width :=
  lt_of_le_of_lt hbit.2 h.high_lt

lemma Within.width_le (h : g.Within width) : g.low + g.width ≤ width := by
  have hhigh := h.high_lt
  have := h.width_pos
  unfold high at hhigh
  omega

/-- The mask of a field has the bits of the field. -/
theorem Within.testBit_bitmask (h : g.Within width) (hwidth : width ≤ maxValueWidth) (bit : ℕ) :
    g.bitmask.testBit bit = decide (g.Covers bit) := by
  have hle := h.width_le
  have hspan : span g.low g.high = g.width := by
    have := h.width_pos
    unfold span high
    omega
  have hcovers : decide (g.Covers bit) = (decide (g.low ≤ bit) && decide (bit - g.low < g.width)) := by
    rw [Bool.eq_iff_iff]
    simpa using h.covers_iff bit
  rw [hcovers, bitmask, rangeMask, hspan, testBit_truncate, Nat.testBit_shiftLeft, testBit_valueMask,
    Nat.min_eq_left (by omega)]
  by_cases hlow : g.low ≤ bit
  · by_cases hbit : bit - g.low < g.width
    · have hless : bit < maxValueWidth := by omega
      simp [hlow, hbit, hless]
    · simp [hbit]
  · simp [hlow]

/-! ## Encoded values -/

lemma testBit_orient (hvalue : value ≤ g.maxValue) (i : ℕ) :
    (g.orient value).testBit i = (decide (i < g.width) &&
      value.testBit (if g.reversed then g.width - 1 - i else i)) := by
  unfold orient
  cases g.reversed with
  | true =>
    rw [if_pos rfl, if_pos rfl]
    exact testBit_reverseBits value g.width i
  | false =>
    simp only [Bool.false_eq_true, if_false]
    by_cases hi : i < g.width
    · simp [hi]
    · rw [testBit_of_le_valueMask hvalue (Nat.le_of_not_lt hi)]
      simp

/-- The bits of an encoded value are those of the value, in the order of the field, and no bit lies
outside of the field. -/
theorem Within.testBit_encode (h : g.Within width) (hwidth : width ≤ maxValueWidth)
    (hencode : g.encode value = .ok bits) (bit : ℕ) :
    bits.testBit bit = (decide (g.Covers bit) && value.testBit (g.valueBit bit)) := by
  unfold encode at hencode
  split at hencode
  · cases hencode
  next hfits =>
  cases hencode
  rw [testBit_truncate, Nat.testBit_shiftLeft, testBit_orient (Nat.le_of_not_lt hfits)]
  by_cases hcovers : g.Covers bit
  · have hless : bit < maxValueWidth := lt_of_lt_of_le (h.lt_of_covers hcovers) hwidth
    have hbit := (h.covers_iff bit).1 hcovers
    have hindex : (if g.reversed then g.width - 1 - (bit - g.low) else bit - g.low) =
        g.valueBit bit := by
      unfold valueBit high
      split <;> omega
    simp [hcovers, hless, hbit.1, hbit.2, hindex]
  · have hbit : ¬ (g.low ≤ bit ∧ bit - g.low < g.width) := fun hin =>
      hcovers ((h.covers_iff bit).2 hin)
    by_cases hlow : g.low ≤ bit
    · have hout : ¬ bit - g.low < g.width := fun hlt => hbit ⟨hlow, hlt⟩
      simp [hcovers, hout]
    · simp [hcovers, hlow]

end Geometry

/-- An encoded field value is the encoding of an integer. -/
lemma FieldLayout.exists_encode {f : FieldLayout} {value : FieldValue} {bits : ℕ}
    (h : f.encode value = .ok bits) : ∃ n, f.geometry.encode n = .ok bits := by
  unfold encode at h
  split at h
  · exact ⟨_, h⟩
  · split at h
    · exact ⟨_, h⟩
    · cases h
  · cases h

end RegisterMap
