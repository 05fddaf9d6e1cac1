import Mathlib
import RegisterMap.Proofs.Field.Placement

/-!
# The codec of a field loses nothing

`registerBit` says where a bit of a field value lies in the register; it undoes `valueBit`, so
encoding and decoding move the same bits in opposite directions.  `Exact` collects what follows for
one field of one register: a value written among other bits is read back, what is read and written
again is the part of the register that the field covers, the two orders of a range are mirror
images of each other, and each direction refuses only what does not fit.

Every geometry that can be built is exact in every register that holds it (`exact_of_ofBounds`).
-/

namespace RegisterMap.Geometry

/-- The register bit that holds a bit of the field value. -/
def registerBit (g : Geometry) (i : ℕ) : ℕ := if g.reversed then g.high - i else g.low + i

variable {g : Geometry} {low high msb lsb width registerWidth value raw bits i bit : ℕ}

/-! ## Bits of a decoded value -/

namespace Within

lemma covers_registerBit (h : g.Within registerWidth) (hi : i < g.width) :
    g.Covers (g.registerBit i) := by
  rw [h.covers_iff]
  unfold registerBit high
  split <;> omega

lemma valueBit_registerBit (h : g.Within registerWidth) (hi : i < g.width) :
    g.valueBit (g.registerBit i) = i := by
  have := h.width_pos
  unfold valueBit registerBit high
  split <;> omega

lemma valueBit_lt (h : g.Within registerWidth) (hbit : g.Covers bit) : g.valueBit bit < g.width := by
  have := h.width_pos
  have hbit := (h.covers_iff bit).1 hbit
  unfold valueBit high
  split <;> omega

lemma registerBit_valueBit (hbit : g.Covers bit) : g.registerBit (g.valueBit bit) = bit := by
  obtain ⟨hlow, hhigh⟩ := hbit
  unfold valueBit registerBit
  split <;> omega

end Within

lemma decode_eq_ok_of_le (hraw : raw ≤ valueMask registerWidth) :
    g.decode raw registerWidth = .ok (g.orient ((raw &&& g.bitmask) >>> g.low)) :=
  if_neg (Nat.not_lt.2 hraw)

/-- The bits of a decoded value are those of the register, in the order of the field. -/
theorem Within.testBit_decode (h : g.Within registerWidth) (hwidth : registerWidth ≤ maxValueWidth)
    (hdecode : g.decode raw registerWidth = .ok value) (i : ℕ) :
    value.testBit i = (decide (i < g.width) && raw.testBit (g.registerBit i)) := by
  have hcut : ∀ j, ((raw &&& g.bitmask) >>> g.low).testBit j =
      (decide (j < g.width) && raw.testBit (g.low + j)) := by
    intro j
    have hcovers : decide (g.Covers (g.low + j)) = decide (j < g.width) := by
      rw [decide_eq_decide, h.covers_iff]
      omega
    rw [Nat.testBit_shiftRight, Nat.testBit_and, h.testBit_bitmask hwidth, hcovers, Bool.and_comm]
  have hfits : (raw &&& g.bitmask) >>> g.low ≤ g.maxValue := by
    have hle := h.width_le
    refine le_valueMask_of_testBit (by omega) fun j hj => ?_
    simp [hcut, Nat.not_lt.2 hj]
  unfold decode at hdecode
  split at hdecode
  · cases hdecode
  cases hdecode
  rw [testBit_orient hfits, hcut]
  by_cases hi : i < g.width
  · have hindex : g.low + (if g.reversed then g.width - 1 - i else i) = g.registerBit i := by
      unfold registerBit high
      split <;> omega
    have hless : (if g.reversed then g.width - 1 - i else i) < g.width := by split <;> omega
    rw [hindex]
    simp [hi, hless]
  · simp [hi]

lemma Within.decode_le (h : g.Within registerWidth) (hwidth : registerWidth ≤ maxValueWidth)
    (hdecode : g.decode raw registerWidth = .ok value) : value ≤ g.maxValue := by
  have hle := h.width_le
  refine le_valueMask_of_testBit (by omega) fun i hi => ?_
  simp [h.testBit_decode hwidth hdecode, Nat.not_lt.2 hi]

lemma exists_encode_of_le (hvalue : value ≤ g.maxValue) : ∃ bits, g.encode value = .ok bits :=
  ⟨_, if_neg (Nat.not_lt.2 hvalue)⟩

lemma Within.encode_le (h : g.Within registerWidth) (hwidth : registerWidth ≤ maxValueWidth)
    (hencode : g.encode value = .ok bits) : bits ≤ valueMask registerWidth := by
  refine le_valueMask_of_testBit hwidth fun bit hbit => ?_
  have hout : ¬ g.Covers bit := fun hin => Nat.not_lt.2 hbit (h.lt_of_covers hin)
  simp [h.testBit_encode hwidth hencode, hout]

/-- Outside of the field nothing is masked, inside everything. -/
lemma Within.testBit_inverseBitmask (h : g.Within registerWidth)
    (hwidth : registerWidth ≤ maxValueWidth) (bit : ℕ) :
    (g.inverseBitmask registerWidth).testBit bit =
      (decide (bit < registerWidth) && !decide (g.Covers bit)) := by
  rw [inverseBitmask, testBit_clearBits, testBit_valueMask, h.testBit_bitmask hwidth,
    Nat.min_eq_left hwidth]
  by_cases hbit : bit < registerWidth
  · have hless : bit < maxValueWidth := lt_of_lt_of_le hbit hwidth
    simp [hbit, hless]
  · simp [hbit]

/-! ## Both directions -/

/-- A register value that has the bits of an encoded value within the field decodes to that value,
whatever its other bits are. -/
theorem Within.decode_eq_of_bits (h : g.Within registerWidth)
    (hwidth : registerWidth ≤ maxValueWidth) (hencode : g.encode value = .ok bits)
    (hraw : raw ≤ valueMask registerWidth)
    (hbits : ∀ bit, g.Covers bit → raw.testBit bit = bits.testBit bit) :
    g.decode raw registerWidth = .ok value := by
  have hvalue : value ≤ g.maxValue := by
    by_contra hlarge
    rw [encode, if_pos (Nat.lt_of_not_le hlarge)] at hencode
    cases hencode
  have hdecode := decode_eq_ok_of_le (g := g) hraw
  rw [hdecode]
  congr 1
  refine Nat.eq_of_testBit_eq fun i => ?_
  rw [h.testBit_decode hwidth hdecode]
  by_cases hi : i < g.width
  · have hcovers := h.covers_registerBit hi
    rw [hbits _ hcovers, h.testBit_encode hwidth hencode, h.valueBit_registerBit hi]
    simp [hi, hcovers]
  · rw [testBit_of_le_valueMask hvalue (Nat.le_of_not_lt hi)]
    simp [hi]

theorem Within.decode_merge (h : g.Within registerWidth) (hwidth : registerWidth ≤ maxValueWidth)
    (hencode : g.encode value = .ok bits) {other : ℕ} (hother : other ≤ valueMask registerWidth) :
    g.decode ((other &&& g.inverseBitmask registerWidth) ||| bits) registerWidth = .ok value := by
  refine h.decode_eq_of_bits hwidth hencode ?_ fun bit hbit => ?_
  · refine le_valueMask_of_testBit hwidth fun bit hbit => ?_
    rw [Nat.testBit_or, Nat.testBit_and, testBit_of_le_valueMask hother hbit,
      testBit_of_le_valueMask (h.encode_le hwidth hencode) hbit]
    simp
  · rw [Nat.testBit_or, Nat.testBit_and, h.testBit_inverseBitmask hwidth]
    simp [hbit]

theorem Within.encode_of_decode (h : g.Within registerWidth)
    (hwidth : registerWidth ≤ maxValueWidth) (hdecode : g.decode raw registerWidth = .ok value) :
    g.encode value = .ok (raw &&& g.bitmask) := by
  obtain ⟨bits, hencode⟩ := exists_encode_of_le (h.decode_le hwidth hdecode)
  rw [hencode]
  congr 1
  refine Nat.eq_of_testBit_eq fun bit => ?_
  rw [h.testBit_encode hwidth hencode, Nat.testBit_and, h.testBit_bitmask hwidth]
  by_cases hbit : g.Covers bit
  · rw [h.testBit_decode hwidth hdecode, registerBit_valueBit hbit]
    simp [hbit, h.valueBit_lt hbit]
  · simp [hbit]

/-! ## Refusals -/

lemma decode_eq_error_iff {fault : Fault} : g.decode raw registerWidth = .error fault ↔
    valueMask registerWidth < raw ∧ fault = .tooLarge raw (valueMask registerWidth) := by
  unfold decode
  split <;> simp_all [eq_comm]

lemma encode_eq_error_iff {fault : Fault} :
    g.encode value = .error fault ↔ g.maxValue < value ∧ fault = .tooLarge value g.maxValue := by
  unfold encode
  split <;> simp_all [eq_comm]

lemma encodeSigned_eq_error_iff {signed : ℤ} {fault : Fault} :
    g.encodeSigned signed = .error fault ↔
      signed < 0 ∧ fault = .negative signed ∨
        (g.maxValue : ℤ) < signed ∧ fault = .tooLarge signed.toNat g.maxValue := by
  cases signed with
  | ofNat n =>
    rw [encodeSigned, encode_eq_error_iff]
    simp
  | negSucc n =>
    have hlow : Int.negSucc n < 0 := Int.negSucc_lt_zero n
    have hhigh : ¬ (g.maxValue : ℤ) < Int.negSucc n := by omega
    simp [encodeSigned, hlow, hhigh, eq_comm]

/-! ## The two orders of a range -/

/-- The bits of a register can be counted. -/
lemma span_lt_of_lt (hhigh : high < maxValueWidth) : span low high < valueCount countWidth := by
  have hcount : maxValueWidth + 1 < valueCount countWidth := by decide
  unfold span
  omega

/-- Two ends make a position when they lie in the widest register. -/
theorem ofMsbLsb_eq_ok_iff {msb lsb : ℕ} : ofMsbLsb msb lsb = .ok g ↔
    max msb lsb < maxValueWidth ∧
      g = ⟨min msb lsb, span (min msb lsb) (max msb lsb), decide (msb < lsb)⟩ := by
  unfold ofMsbLsb ofBounds
  simp only
  rw [if_neg (by omega)]
  by_cases hmax : maxValueWidth ≤ max msb lsb
  · rw [if_neg (not_not.2 rfl), if_pos hmax]
    split <;> simp [Nat.not_lt.2 hmax]
  · have hmax := Nat.lt_of_not_le hmax
    rw [if_neg (Nat.not_le.2 (span_lt_of_lt hmax)), if_neg (not_not.2 rfl),
      if_neg (Nat.not_le.2 hmax)]
    by_cases hlt : msb < lsb
    · rw [if_neg (by omega), if_pos (by omega)]
      simp [hmax, hlt, eq_comm]
    · rw [if_pos (by omega)]
      simp [hmax, hlt, eq_comm]

/-- The highest bit of a position is the higher one of its ends. -/
lemma high_of_ends (msb lsb : ℕ) :
    Geometry.high ⟨min msb lsb, span (min msb lsb) (max msb lsb), decide (msb < lsb)⟩ =
      max msb lsb := by
  simp only [Geometry.high, span]
  omega

/-- The ends of a position are those that it was made of. -/
lemma ends_of_ofMsbLsb {msb lsb : ℕ} (h : ofMsbLsb msb lsb = .ok g) :
    g.msb = msb ∧ g.lsb = lsb := by
  obtain ⟨-, rfl⟩ := ofMsbLsb_eq_ok_iff.1 h
  unfold Geometry.msb Geometry.lsb
  rw [high_of_ends]
  by_cases hlt : msb < lsb
  · simp [hlt, hlt.le]
  · simp [hlt, Nat.not_lt.1 hlt]

/-- A position that is accepted has bits. -/
lemma width_pos_of_ofMsbLsb {msb lsb : ℕ} (h : ofMsbLsb msb lsb = .ok g) : 0 < g.width := by
  obtain ⟨-, rfl⟩ := ofMsbLsb_eq_ok_iff.1 h
  exact Nat.succ_pos _

lemma upward_eq (hle : low ≤ high) (hhigh : high < maxValueWidth) :
    upward low high = .ok ⟨low, span low high, false⟩ := by
  refine ofMsbLsb_eq_ok_iff.2 ⟨by rwa [Nat.max_eq_left hle], ?_⟩
  rw [Nat.min_eq_right hle, Nat.max_eq_left hle, decide_eq_false (Nat.not_lt.2 hle)]

/-- A range of one bit has one order. -/
lemma downward_eq (hle : low ≤ high) (hhigh : high < maxValueWidth) :
    downward low high = .ok ⟨low, span low high, decide (low < high)⟩ := by
  refine ofMsbLsb_eq_ok_iff.2 ⟨by rwa [Nat.max_eq_right hle], ?_⟩
  rw [Nat.min_eq_left hle, Nat.max_eq_right hle]

/-- A geometry is given by its range and one of the two orders. -/
theorem ofBounds_eq_ok (h : ofBounds low high msb lsb width = .ok g) :
    low ≤ high ∧ high < maxValueWidth ∧
      (g = ⟨low, span low high, false⟩ ∨ g = ⟨low, span low high, decide (low < high)⟩) := by
  unfold ofBounds at h
  split at h
  · cases h
  split at h
  · cases h
  split at h
  · cases h
  split at h
  · cases h
  rename_i hle _ hspan hhigh
  have hle := Nat.le_of_not_lt hle
  obtain rfl : span low high = width := Decidable.not_not.1 hspan
  refine ⟨hle, Nat.lt_of_not_le hhigh, ?_⟩
  split at h
  · cases h
    exact .inl rfl
  split at h
  · rename_i hup hdown
    -- the ends differ, or the range were taken in storage order
    have hlt : low < high := by
      rcases Nat.lt_or_eq_of_le hle with hlt | rfl
      · exact hlt
      · exact absurd hdown hup
    cases h
    rw [decide_eq_true hlt]
    exact .inr rfl
  · cases h

/-- Against storage order the bits of the range stand in opposite order. -/
theorem shiftRight_downward_eq_reverseBits {up down : Geometry} {u d : ℕ}
    (hle : low ≤ high) (hhigh : high < maxValueWidth)
    (hup : up = ⟨low, span low high, false⟩)
    (hdown : down = ⟨low, span low high, decide (low < high)⟩)
    (hu : up.encode value = .ok u) (hd : down.encode value = .ok d) :
    d >>> low = reverseBits (u >>> low) (span low high) := by
  subst hup hdown
  have hup : Within ⟨low, span low high, false⟩ maxValueWidth :=
    ⟨by simp [span], by simp only [Geometry.high, span]; omega⟩
  have hdown : Within ⟨low, span low high, decide (low < high)⟩ maxValueWidth :=
    ⟨by simp [span], by simp only [Geometry.high, span]; omega⟩
  refine Nat.eq_of_testBit_eq fun i => ?_
  rw [Nat.testBit_shiftRight, testBit_reverseBits, Nat.testBit_shiftRight,
    hdown.testBit_encode le_rfl hd, hup.testBit_encode le_rfl hu]
  by_cases hi : i < span low high
  · have hcoversDown : Covers ⟨low, span low high, decide (low < high)⟩ (low + i) := by
      rw [hdown.covers_iff]
      simp [hi]
    have hcoversUp : Covers ⟨low, span low high, false⟩ (low + (span low high - 1 - i)) := by
      rw [hup.covers_iff]
      simp only [Nat.le_add_right, Nat.add_sub_cancel_left, true_and]
      omega
    have hbit : valueBit ⟨low, span low high, decide (low < high)⟩ (low + i) =
        valueBit ⟨low, span low high, false⟩ (low + (span low high - 1 - i)) := by
      simp only [valueBit, Geometry.high, span] at hi ⊢
      by_cases hlt : low < high <;> simp [hlt] <;> omega
    simp [hi, hcoversDown, hcoversUp, hbit]
  · have hout : ¬ Covers ⟨low, span low high, decide (low < high)⟩ (low + i) := by
      rw [hdown.covers_iff]
      simp [hi]
    simp [hi, hout]

/-! ## Exact codecs -/

/-- The codec of a field in a register of the given width loses nothing and refuses only what does
not fit. -/
structure Exact (g : Geometry) (registerWidth : ℕ) : Prop where
  /-- A field value put among the other bits of a register is read back. -/
  decode_merged : ∀ value ≤ g.maxValue, ∀ other ≤ valueMask registerWidth,
    ∃ bits, g.encode value = .ok bits ∧
      g.decode ((other &&& g.inverseBitmask registerWidth) ||| bits) registerWidth = .ok value
  /-- What is read out of a register and put back are the bits of the field. -/
  encode_decoded : ∀ raw ≤ valueMask registerWidth,
    ∃ value, g.decode raw registerWidth = .ok value ∧ g.encode value = .ok (raw &&& g.bitmask)
  /-- The field has one of the two orders of its range, and each shows the other one mirrored. -/
  mirrored : ∃ up down, upward g.low g.high = .ok up ∧ downward g.low g.high = .ok down ∧
    (g = up ∨ g = down) ∧ ∀ value ≤ g.maxValue,
      ∃ u d, up.encode value = .ok u ∧ down.encode value = .ok d ∧
        d >>> g.low = reverseBits (u >>> g.low) g.width
  /-- A register value is refused where the register cannot hold it. -/
  decode_refused : ∀ raw fault, g.decode raw registerWidth = .error fault ↔
    valueMask registerWidth < raw ∧ fault = .tooLarge raw (valueMask registerWidth)
  /-- A field value is refused where the field cannot hold it. -/
  encode_refused : ∀ value fault, g.encode value = .error fault ↔
    g.maxValue < value ∧ fault = .tooLarge value g.maxValue
  /-- A signed value is refused where it is negative or the field cannot hold it. -/
  encodeSigned_refused : ∀ signed fault, g.encodeSigned signed = .error fault ↔
    signed < 0 ∧ fault = .negative signed ∨
      (g.maxValue : ℤ) < signed ∧ fault = .tooLarge signed.toNat g.maxValue

/-- Every field is coded exactly, in every register that holds it. -/
theorem exact_of_ofBounds (hg : ofBounds low high msb lsb width = .ok g)
    (hhigh : g.high < registerWidth) (hwidth : registerWidth ≤ maxValueWidth) :
    g.Exact registerWidth := by
  obtain ⟨hle, hmax, hg⟩ := ofBounds_eq_ok hg
  have hends : g.low = low ∧ g.high = high ∧ g.width = span low high := by
    have hends : low + span low high - 1 = high := by
      unfold span
      omega
    rcases hg with rfl | rfl
    · exact ⟨rfl, hends, rfl⟩
    · exact ⟨rfl, hends, rfl⟩
  obtain ⟨hlow, hhigh', hspan⟩ := hends
  have hwithin : g.Within registerWidth := ⟨by rw [hspan]; exact Nat.succ_pos _, hhigh⟩
  refine
    { decode_merged := fun value hvalue other hother => ?_
      encode_decoded := fun raw hraw => ?_
      mirrored := ?_
      decode_refused := fun _ _ => decode_eq_error_iff
      encode_refused := fun _ _ => encode_eq_error_iff
      encodeSigned_refused := fun _ _ => encodeSigned_eq_error_iff }
  · obtain ⟨bits, hencode⟩ := exists_encode_of_le hvalue
    exact ⟨bits, hencode, hwithin.decode_merge hwidth hencode hother⟩
  · have hdecode := decode_eq_ok_of_le (g := g) hraw
    exact ⟨_, hdecode, hwithin.encode_of_decode hwidth hdecode⟩
  · rw [hlow, hhigh', hspan]
    refine ⟨_, _, upward_eq hle hmax, downward_eq hle hmax, hg, fun value hvalue => ?_⟩
    rw [maxValue, hspan] at hvalue
    obtain ⟨u, hu⟩ := exists_encode_of_le (g := ⟨low, span low high, false⟩) hvalue
    obtain ⟨d, hd⟩ := exists_encode_of_le (g := ⟨low, span low high, decide (low < high)⟩) hvalue
    exact ⟨u, d, hu, hd, shiftRight_downward_eq_reverseBits hle hmax rfl rfl hu hd⟩

/-- A reversed field as wide as the widest register. -/
theorem exact_of_ofBounds_widest : ∃ g, ofBounds 0 127 0 127 128 = .ok g ∧ g.high < 128 ∧
    128 ≤ maxValueWidth ∧ g.reversed = true ∧ g.Exact 128 :=
  have hg : ofBounds 0 127 0 127 128 = .ok ⟨0, 128, true⟩ := rfl
  ⟨_, hg, by decide, by decide, rfl, exact_of_ofBounds hg (by decide) (by decide)⟩

end RegisterMap.Geometry
