import Mathlib
import RegisterMap.Proofs.Field.Codec
import RegisterMap.Proofs.Results

/-!
# Counting and shifting within the widths of numbers

Bits are numbered and counted with numbers of 32 bits, and values are moved by fewer bits than the
widest value has.  The definitions of masks, geometries and codecs are about natural numbers, where
nothing overflows; here each of them is carried out once more, one operation after the other, with
operations that have no outcome beyond those widths.

Of all ranges of bits only the whole range of the bit numbers has too many bits to be counted
(`span?_eq`), and the bits are counted before the range is known to lie in a register, so this is
the one range that comes to nothing (`stopsIff_ofBounds`, `stopsIff_ofMsbLsb`).  A geometry that was
accepted lies in the widest register: its mask and its codec, in both directions, are carried out
whatever they are asked (`inRange_of_ofBounds`).
-/

namespace RegisterMap

/-! ## Operations -/

/-- The sum of two counts, if it is a count. -/
def sumOfCounts? (m n : ℕ) : Option ℕ := if m + n < valueCount countWidth then some (m + n) else none

/-- The difference of two numbers, if it is not negative. -/
def difference? (m n : ℕ) : Option ℕ := if n ≤ m then some (m - n) else none

/-- A value moved up, if the widest value has more bits than it is moved by.  What leaves the widest
value is dropped. -/
def shiftedUp? (value amount : ℕ) : Option ℕ :=
  if amount < maxValueWidth then some (truncate (value <<< amount)) else none

/-- A value moved down, if the widest value has more bits than it is moved by. -/
def shiftedDown? (value amount : ℕ) : Option ℕ :=
  if amount < maxValueWidth then some (value >>> amount) else none

/-! ## Masks and reversal, one operation after the other -/

def span? (low high : ℕ) : Option ℕ := do sumOfCounts? (← difference? high low) 1

/-- All ones of the widest value, or the ones below a single one. -/
def valueMask? (width : ℕ) : Option ℕ :=
  if maxValueWidth ≤ width then some (valueMask maxValueWidth)
  else do difference? (← shiftedUp? 1 width) 1

def rangeMask? (low high : ℕ) : Option ℕ := do shiftedUp? (← valueMask? (← span? low high)) low

/-- The bits of the widest value in opposite order, moved down to the lowest ones.  There is no
value without bits. -/
def reverseBits? (value width : ℕ) : Option ℕ :=
  if 1 ≤ width ∧ width ≤ maxValueWidth then do
    shiftedDown? (reverseBits (value &&& (← valueMask? width)) maxValueWidth)
      (← difference? maxValueWidth width)
  else none

namespace Geometry

/-! ## Geometries and codecs, one operation after the other -/

def ofBounds? (low high msb lsb width : ℕ) : Option (Except Fault Geometry) :=
  if high < low then some (.error (.invalidGeometry (.highBelowLow high low)))
  else do
    let count ← span? low high
    if count ≠ width then some (.error (.invalidGeometry (.widthMismatch width low high)))
    else if maxValueWidth ≤ high then some (.error (.invalidGeometry (.beyondRegister high)))
    else if msb = high ∧ lsb = low then some (.ok ⟨low, width, false⟩)
    else if msb = low ∧ lsb = high then some (.ok ⟨low, width, true⟩)
    else some (.error (.invalidGeometry (.endsMismatch msb lsb low high)))

def ofMsbLsb? (msb lsb : ℕ) : Option (Except Fault Geometry) := do
  let low := min msb lsb
  let high := max msb lsb
  ofBounds? low high msb lsb (← span? low high)

def orient? (g : Geometry) (bits : ℕ) : Option ℕ :=
  if g.reversed then reverseBits? bits g.width else some bits

def decode? (g : Geometry) (raw registerWidth : ℕ) : Option (Except Fault ℕ) := do
  let largest ← valueMask? registerWidth
  if largest < raw then some (.error (.tooLarge raw largest))
  else do
    let bits ← shiftedDown? (raw &&& (← rangeMask? g.low g.high)) g.low
    .ok <$> g.orient? bits

def encode? (g : Geometry) (value : ℕ) : Option (Except Fault ℕ) := do
  let largest ← valueMask? g.width
  if largest < value then some (.error (.tooLarge value largest))
  else .ok <$> shiftedUp? (← g.orient? value) g.low

end Geometry

/-! ## Ranges of bits -/

section Ranges

variable {low high width value : ℕ}

lemma span?_eq_ite (hle : low ≤ high) : span? low high =
    if span low high < valueCount countWidth then some (span low high) else none := by
  simp only [span?, difference?, if_pos hle, Option.bind_eq_bind, Option.bind_some, sumOfCounts?,
    span]
  rfl

lemma span?_eq_some_iff (hle : low ≤ high) {n : ℕ} :
    span? low high = some n ↔ span low high < valueCount countWidth ∧ n = span low high := by
  rw [span?_eq_ite hle]
  split <;> simp_all [eq_comm]

/-- The bits of a range that reaches no further than the bit numbers do can be counted, unless it is
all of them. -/
theorem span?_eq (hle : low ≤ high) (hhigh : high < valueCount countWidth) :
    span? low high =
      if low = 0 ∧ high = valueCount countWidth - 1 then none else some (span low high) := by
  rw [span?_eq_ite hle]
  unfold span
  split <;> split <;> first | rfl | omega

lemma valueMask?_eq (width : ℕ) : valueMask? width = some (valueMask width) := by
  by_cases hwidth : maxValueWidth ≤ width
  · rw [valueMask?, if_pos hwidth, valueMask, valueMask, Nat.min_self, Nat.min_eq_right hwidth]
  · have hlt : width < maxValueWidth := Nat.lt_of_not_le hwidth
    have hpow : 2 ^ width < 2 ^ maxValueWidth := Nat.pow_lt_pow_right (by decide) hlt
    have hone : truncate (1 <<< width) = 2 ^ width := by
      rw [Nat.one_shiftLeft, truncate, valueCount, Nat.pow_eq, Nat.mod_eq_of_lt hpow]
    have hpos : 1 ≤ 2 ^ width := Nat.one_le_two_pow
    simp only [valueMask?, if_neg hwidth, shiftedUp?, if_pos hlt, hone, difference?, if_pos hpos,
      Option.bind_eq_bind, Option.bind_some, valueMask, valueCount, Nat.min_eq_left hlt.le,
      Nat.pow_eq]

lemma rangeMask?_eq (hle : low ≤ high) (hhigh : high < maxValueWidth) :
    rangeMask? low high = some (rangeMask low high) := by
  have hspan : span? low high = some (span low high) :=
    (span?_eq_some_iff hle).2 ⟨Geometry.span_lt_of_lt hhigh, rfl⟩
  simp only [rangeMask?, hspan, Option.bind_eq_bind, Option.bind_some, valueMask?_eq, shiftedUp?,
    if_pos (lt_of_le_of_lt hle hhigh), rangeMask]

/-- The bits of a narrow value are the last ones of the widest value when that is reversed. -/
lemma reverseBits_shiftRight (hwidth : width ≤ maxValueWidth) :
    reverseBits (value &&& valueMask width) maxValueWidth >>> (maxValueWidth - width) =
      reverseBits value width := by
  refine Nat.eq_of_testBit_eq fun i => ?_
  rw [Nat.testBit_shiftRight, testBit_reverseBits, Nat.testBit_and, testBit_valueMask,
    testBit_reverseBits, Nat.min_eq_left hwidth]
  by_cases hi : i < width
  · have hbit : maxValueWidth - 1 - (maxValueWidth - width + i) = width - 1 - i := by omega
    have hbelow : maxValueWidth - width + i < maxValueWidth := by omega
    have hmask : width - 1 - i < width := by omega
    simp [hi, hbit, hbelow, hmask]
  · have habove : ¬ maxValueWidth - width + i < maxValueWidth := by omega
    simp [hi, habove]

lemma reverseBits?_eq (hpos : 1 ≤ width) (hwidth : width ≤ maxValueWidth) :
    reverseBits? value width = some (reverseBits value width) := by
  have hamount : maxValueWidth - width < maxValueWidth := by omega
  simp only [reverseBits?, if_pos (And.intro hpos hwidth), valueMask?_eq, difference?,
    if_pos hwidth, Option.bind_eq_bind, Option.bind_some, shiftedDown?, if_pos hamount,
    reverseBits_shiftRight hwidth]

end Ranges

namespace Geometry

/-! ## Which bounds have an outcome -/

variable {low high msb lsb width : ℕ}

/-- With bits that can be counted the outcome is that of the natural numbers. -/
lemma ofBounds?_eq_some (hcount : low ≤ high → span low high < valueCount countWidth) :
    ofBounds? low high msb lsb width = some (ofBounds low high msb lsb width) := by
  unfold ofBounds? ofBounds
  by_cases hle : high < low
  · rw [if_pos hle, if_pos hle]
  · have hcount := hcount (Nat.le_of_not_lt hle)
    have hspan : span? low high = some (span low high) :=
      (span?_eq_some_iff (Nat.le_of_not_lt hle)).2 ⟨hcount, rfl⟩
    rw [if_neg hle, if_neg hle, if_neg (Nat.not_le.2 hcount), hspan, Option.bind_eq_bind,
      Option.bind_some]
    repeat' split
    all_goals rfl

lemma ofBounds?_eq_none (hle : low ≤ high) (hcount : valueCount countWidth ≤ span low high) :
    ofBounds? low high msb lsb width = none ∧
      ofBounds low high msb lsb width = .error (.invalidGeometry .uncountable) := by
  have hspan : span? low high = none := by
    refine Option.eq_none_iff_forall_ne_some.2 fun n hn => ?_
    exact Nat.not_lt.2 hcount ((span?_eq_some_iff hle).1 hn).1
  constructor
  · rw [ofBounds?, if_neg (Nat.not_lt.2 hle), hspan]
    rfl
  · rw [ofBounds, if_neg (Nat.not_lt.2 hle), if_pos hcount]

/-- Bounds are refused for what is wrong with them. -/
lemma failsOnly_ofBounds (hcount : low ≤ high → span low high < valueCount countWidth) :
    FailsOnly (fun e => ∃ cause, e = .invalidGeometry cause ∧ cause ≠ .uncountable)
      (ofBounds low high msb lsb width) := by
  unfold ofBounds
  split
  · exact .error ⟨_, rfl, nofun⟩
  next hle =>
  rw [if_neg (Nat.not_le.2 (hcount (Nat.le_of_not_lt hle)))]
  repeat' split
  all_goals first | exact .ok _ | exact .error ⟨_, rfl, nofun⟩

/-- What bounds come to: nothing, since their bits cannot be counted, in one case, and otherwise a
geometry or what is wrong with them. -/
structure StopsIff (all : Prop) (evaluated : Option (Except Fault Geometry))
    (made : Except Fault Geometry) : Prop where
  stops : all → evaluated = none ∧ made = .error (.invalidGeometry .uncountable)
  answers : ¬ all → evaluated = some made ∧
    FailsOnly (fun e => ∃ cause, e = .invalidGeometry cause ∧ cause ≠ .uncountable) made

/-- Two ends of a field that are the first and the last of all bit numbers, in either order. -/
def AllNumbers (msb lsb : ℕ) : Prop := min msb lsb = 0 ∧ max msb lsb = valueCount countWidth - 1

/-- Bounds that are bit numbers come to something, unless they bound all of them. -/
theorem stopsIff_ofBounds (hhigh : high < valueCount countWidth) :
    StopsIff (low = 0 ∧ high = valueCount countWidth - 1) (ofBounds? low high msb lsb width)
      (ofBounds low high msb lsb width) := by
  have hpos : 0 < valueCount countWidth := by decide
  constructor
  · rintro ⟨rfl, rfl⟩
    exact ofBounds?_eq_none (Nat.zero_le _) (by unfold span; omega)
  · intro hsome
    have hcount : low ≤ high → span low high < valueCount countWidth := by
      intro hle
      unfold span
      omega
    exact ⟨ofBounds?_eq_some hcount, failsOnly_ofBounds hcount⟩

/-- Ends that are bit numbers come to something, unless they are the first and the last one. -/
theorem stopsIff_ofMsbLsb (hmsb : msb < valueCount countWidth) (hlsb : lsb < valueCount countWidth) :
    StopsIff (AllNumbers msb lsb) (ofMsbLsb? msb lsb) (ofMsbLsb msb lsb) := by
  have hle : min msb lsb ≤ max msb lsb := min_le_max
  have hhigh : max msb lsb < valueCount countWidth := max_lt hmsb hlsb
  have hbounds : StopsIff (AllNumbers msb lsb)
      (ofBounds? (min msb lsb) (max msb lsb) msb lsb (span (min msb lsb) (max msb lsb)))
      (ofMsbLsb msb lsb) := stopsIff_ofBounds hhigh
  have hspan := span?_eq hle hhigh
  unfold AllNumbers
  constructor
  · intro hall
    rw [if_pos hall] at hspan
    refine ⟨?_, (hbounds.stops hall).2⟩
    rw [ofMsbLsb?, hspan]
    rfl
  · intro hall
    rw [if_neg hall] at hspan
    refine ⟨?_, (hbounds.answers hall).2⟩
    rw [ofMsbLsb?, hspan]
    exact (hbounds.answers hall).1

/-! ## Accepted geometries -/

/-- The mask and the codec of a field are carried out whatever they are asked. -/
structure InRange (g : Geometry) : Prop where
  bitmask : rangeMask? g.low g.high = some g.bitmask
  decode : ∀ raw registerWidth, g.decode? raw registerWidth = some (g.decode raw registerWidth)
  encode : ∀ value, g.encode? value = some (g.encode value)

variable {g : Geometry}

/-- The bits of a field are put in order without a shift by the width of a value. -/
lemma Within.orient?_eq (h : g.Within maxValueWidth) (bits : ℕ) :
    g.orient? bits = some (g.orient bits) := by
  have hle := h.width_le
  unfold orient? orient
  cases g.reversed with
  | true => exact reverseBits?_eq h.width_pos (by omega)
  | false => rfl

/-- A field of the widest register is moved by fewer bits than that register has. -/
theorem Within.inRange (h : g.Within maxValueWidth) : g.InRange := by
  have hpos := h.width_pos
  have hhigh := h.high_lt
  have hle : g.low ≤ g.high := by
    unfold high
    omega
  have hlow : g.low < maxValueWidth := lt_of_le_of_lt hle hhigh
  have hmask : rangeMask? g.low g.high = some g.bitmask := rangeMask?_eq hle hhigh
  refine ⟨hmask, fun raw registerWidth => ?_, fun value => ?_⟩
  · unfold decode? decode
    rw [valueMask?_eq, Option.bind_eq_bind, Option.bind_some]
    split
    · rfl
    · simp only [hmask, shiftedDown?, if_pos hlow, Option.bind_some, h.orient?_eq]
      rfl
  · unfold encode? encode
    rw [valueMask?_eq, Option.bind_eq_bind, Option.bind_some, maxValue]
    split
    · rfl
    · simp only [h.orient?_eq, shiftedUp?, if_pos hlow, Option.bind_some]
      rfl

lemma within_of_ofBounds (h : ofBounds low high msb lsb width = .ok g) : g.Within maxValueWidth := by
  obtain ⟨hle, hhigh, hg⟩ := ofBounds_eq_ok h
  have hspan : low + span low high - 1 = high := by
    unfold span
    omega
  rcases hg with rfl | rfl
  all_goals exact ⟨Nat.succ_pos _, by rw [Geometry.high, hspan]; exact hhigh⟩

/-- Every accepted geometry is moved by fewer bits than a value has. -/
theorem inRange_of_ofBounds (h : ofBounds low high msb lsb width = .ok g) : g.InRange :=
  (within_of_ofBounds h).inRange

end Geometry

end RegisterMap
