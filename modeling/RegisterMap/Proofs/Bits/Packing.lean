import Mathlib
import RegisterMap.Proofs.Bus.Cells
import RegisterMap.Proofs.Bus.Plans
import RegisterMap.Proofs.Field.Placement

/-!
# Values as bit vectors

A list of values is packed by writing the bits of each one behind those of the one before it, so bit
`i` of the vector is bit `i % width` of value `i / width` (`getElem?_wordsToBits`).  Packing and
unpacking are taken apart into what happens to one value, `bitsOf` and `ofBits`, and how the vector
is cut, which undoes the concatenation of equally long pieces.  From the same two parts follows that
a vector is reversed by reversing the list and each of its values (`reverse_wordsToBits`).
-/

namespace RegisterMap

variable {width value : ℕ} {values : List ℕ} {bits : List Bool}

/-! ## One value -/

@[simp] lemma length_bitsOf (width value : ℕ) : (bitsOf width value).length = width := by
  simp [bitsOf]

@[simp] lemma getElem_bitsOf {i : ℕ} (h : i < (bitsOf width value).length) :
    (bitsOf width value)[i] = value.testBit i := by
  simp [bitsOf]

/-- Bit `i` of a value is the bit that was listed at `i`. -/
lemma testBit_ofBits (bits : List Bool) (i : ℕ) : (ofBits bits).testBit i = bits.getD i false := by
  induction bits generalizing i with
  | nil => simp [ofBits]
  | cons bit rest ih =>
    rw [ofBits, Nat.add_comm]
    cases i with
    | zero => cases bit <;> simp
    | succ i =>
      have hhalf : (2 * ofBits rest + bit.toNat) / 2 = ofBits rest := by
        have := bit.toNat_lt
        omega
      rw [Nat.testBit_add_one, hhalf, ih, List.getD_cons_succ]

/-- Of a value that is listed bit by bit, the bits below the width are kept. -/
lemma ofBits_bitsOf (hwidth : width ≤ maxValueWidth) (value : ℕ) :
    ofBits (bitsOf width value) = value &&& valueMask width := by
  refine Nat.eq_of_testBit_eq fun i => ?_
  rw [testBit_ofBits, Nat.testBit_and, testBit_valueMask, Nat.min_eq_left hwidth,
    List.getD_eq_getElem?_getD]
  by_cases hi : i < width
  · simp [hi]
  · simp [bitsOf, hi]

lemma bitsOf_ofBits (hlength : bits.length = width) : bitsOf width (ofBits bits) = bits := by
  refine List.ext_getElem (by rw [length_bitsOf, hlength]) fun i _ hi => ?_
  simp [bitsOf, testBit_ofBits, hi]

lemma ofBits_le (hlength : bits.length = width) (hwidth : width ≤ maxValueWidth) :
    ofBits bits ≤ valueMask width := by
  refine le_valueMask_of_testBit hwidth fun i hi => ?_
  rw [testBit_ofBits, List.getD_eq_default _ _ (hlength.trans_le hi)]

/-- The bits of a value in opposite order are those of the reversed value. -/
lemma reverse_bitsOf (width value : ℕ) :
    (bitsOf width value).reverse = bitsOf width (reverseBits value width) := by
  refine List.ext_getElem (by simp) fun i hi _ => ?_
  have hi' : i < width := by simpa using hi
  simp [bitsOf, testBit_reverseBits, hi']

/-- A value is reversed by reversing the widest value and moving the bits down. -/
theorem reverseBits_eq (hwidth : width ≤ maxValueWidth) (value : ℕ) : reverseBits value width =
    ((BitVec.ofNat maxValueWidth (value &&& valueMask width)).reverse >>>
      (maxValueWidth - width)).toNat := by
  refine Nat.eq_of_testBit_eq fun i => ?_
  rw [testBit_reverseBits, BitVec.testBit_toNat, BitVec.getLsbD_ushiftRight, BitVec.getLsbD_reverse,
    BitVec.getMsbD, BitVec.getLsbD_ofNat, Nat.testBit_and, testBit_valueMask,
    Nat.min_eq_left hwidth]
  by_cases hi : i < width
  · have hindex : maxValueWidth - 1 - (maxValueWidth - width + i) = width - 1 - i := by omega
    have hlow : width - 1 - i < width := by omega
    have hhigh : maxValueWidth - width + i < maxValueWidth := by omega
    simp [hi, hindex, hlow, hhigh, lt_of_lt_of_le hlow hwidth]
  · have hhigh : ¬ maxValueWidth - width + i < maxValueWidth := by omega
    simp [hi, hhigh]

/-! ## Vectors cut into pieces -/

/-- Nothing is lost when a list is cut into groups. -/
lemma flatten_groupsOf {α : Type} {n : ℕ} (hpos : 0 < n) (xs : List α) :
    (groupsOf n xs).flatten = xs := by
  induction hlength : xs.length using Nat.strong_induction_on generalizing xs with
  | _ length ih =>
    rw [groupsOf]
    split
    · next hnone =>
      rcases hnone with hzero | rfl
      · exact absurd hzero hpos.ne'
      · rfl
    · next hsome =>
      have hne : 0 < xs.length := List.length_pos_iff.2 fun h => hsome (Or.inr h)
      rw [List.flatten_cons, ih _ (by rw [List.length_drop]; omega) _ rfl, List.take_append_drop]

/-- All groups of a list of whole groups have the same size. -/
lemma length_of_mem_groupsOf {α : Type} {n : ℕ} {xs piece : List α} (hdvd : n ∣ xs.length)
    (h : piece ∈ groupsOf n xs) : piece.length = n := by
  induction hlength : xs.length using Nat.strong_induction_on generalizing xs with
  | _ length ih =>
    rw [groupsOf] at h
    split at h
    · cases h
    · next hsome =>
      have hne : 0 < xs.length := List.length_pos_iff.2 fun h => hsome (Or.inr h)
      have hle : n ≤ xs.length := Nat.le_of_dvd hne hdvd
      have hpos : 0 < n := Nat.pos_of_ne_zero fun h => hsome (Or.inl h)
      rcases List.mem_cons.1 h with rfl | hrest
      · rw [List.length_take, Nat.min_eq_left hle]
      · have hlast : (xs.drop n).length = xs.length - n := List.length_drop
        refine ih _ ?_ ?_ hrest hlast
        · omega
        · rw [hlast]
          exact Nat.dvd_sub hdvd (dvd_refl n)

lemma wordsToBits_cons (value : ℕ) (values : List ℕ) (width : ℕ) :
    wordsToBits (value :: values) width = bitsOf width value ++ wordsToBits values width :=
  List.flatMap_cons

lemma length_wordsToBits (values : List ℕ) (width : ℕ) :
    (wordsToBits values width).length = values.length * width := by
  simp [wordsToBits, List.length_flatMap]

/-- Bit `i` of the vector is a bit of the value that the width goes into it. -/
theorem getElem?_wordsToBits (hpos : 0 < width) (values : List ℕ) (i : ℕ) :
    (wordsToBits values width)[i]? = (values[i / width]?).map fun v => v.testBit (i % width) := by
  induction values generalizing i with
  | nil => simp [wordsToBits]
  | cons value values ih =>
    rw [wordsToBits_cons]
    by_cases hi : i < width
    · rw [List.getElem?_append_left (by simpa using hi), Nat.div_eq_of_lt hi, Nat.mod_eq_of_lt hi]
      simp [hi]
    · have hle : width ≤ i := Nat.le_of_not_lt hi
      have hdiv : i / width = (i - width) / width + 1 := by
        rw [← Nat.add_div_right _ hpos, Nat.sub_add_cancel hle]
      rw [List.getElem?_append_right (by simpa using hle), length_bitsOf, ih, hdiv,
        List.getElem?_cons_succ, Nat.mod_eq_sub_mod hle]

/-- Unpacking a vector that was packed gives the values, cut down to the width. -/
theorem bitsToWords_wordsToBits (hpos : 0 < width) (hwidth : width ≤ maxValueWidth)
    (values : List ℕ) :
    bitsToWords (wordsToBits values width) width = values.map (· &&& valueMask width) := by
  have hpieces : ∀ piece ∈ values.map (bitsOf width), piece.length = width := by
    intro piece hpiece
    obtain ⟨value, -, rfl⟩ := List.mem_map.1 hpiece
    exact length_bitsOf width value
  rw [bitsToWords, wordsToBits, List.flatMap_def, groupsOf_flatten hpos hpieces, List.map_map]
  exact List.map_congr_left fun value _ => ofBits_bitsOf hwidth value

/-- Packing what was unpacked gives the vector back, if it was cut into whole values. -/
theorem wordsToBits_bitsToWords (hpos : 0 < width) (hdvd : width ∣ bits.length) :
    wordsToBits (bitsToWords bits width) width = bits := by
  have hpieces : (groupsOf width bits).map (bitsOf width ∘ ofBits) = groupsOf width bits := by
    refine (List.map_congr_left fun piece hpiece => ?_).trans (List.map_id _)
    exact bitsOf_ofBits (length_of_mem_groupsOf hdvd hpiece)
  rw [wordsToBits, bitsToWords, List.flatMap_def, List.map_map, hpieces, flatten_groupsOf hpos]

/-- Values that were unpacked fit the width. -/
lemma le_of_mem_bitsToWords (hwidth : width ≤ maxValueWidth) (hdvd : width ∣ bits.length)
    (h : value ∈ bitsToWords bits width) : value ≤ valueMask width := by
  obtain ⟨piece, hpiece, rfl⟩ := List.mem_map.1 h
  exact ofBits_le (length_of_mem_groupsOf hdvd hpiece) hwidth

/-- A packed vector is reversed by reversing the list and each of its values. -/
theorem reverse_wordsToBits (values : List ℕ) (width : ℕ) :
    reverseBitVector (wordsToBits values width) =
      wordsToBits (values.reverse.map fun v => reverseBits v width) width := by
  induction values with
  | nil => rfl
  | cons value values ih =>
    rw [reverseBitVector] at ih ⊢
    rw [wordsToBits_cons, List.reverse_append, ih, reverse_bitsOf, List.reverse_cons,
      List.map_append]
    simp [wordsToBits]

lemma reverseBitVector_reverseBitVector (bits : List Bool) :
    reverseBitVector (reverseBitVector bits) = bits := List.reverse_reverse bits

end RegisterMap
