import Mathlib
import RegisterMap.Index

/-!
# Row-major positions

A position is computed from the first component of an index to the last, by multiplying what is
there with the next dimension and adding the next component.  An index is read off from the last
dimension to the first, by division and remainder.  The two undo each other whatever number the
computation starts from (`unflattenCarry_positionFrom`, `positionFrom_unflattenCarry`), so an index
has a position exactly if reading it off there gives it back (`flatten_eq_ok_iff`).

A smaller component outweighs all that follow, because what follows counts less than one step of it.
The order of positions is therefore the lexicographic order of indices (`flatten_lt_flatten_iff`).
-/

namespace RegisterMap

namespace Index

variable {index index' dimensions : List ℕ} {flat flat' : ℕ}

/-! ## Numbers of elements -/

lemma count_eq_prod (dimensions : List ℕ) : count dimensions = dimensions.prod :=
  List.prod_eq_foldl.symm

@[simp] lemma count_nil : count [] = 1 := rfl

lemma count_cons (d : ℕ) (dimensions : List ℕ) :
    count (d :: dimensions) = d * count dimensions := by
  rw [count_eq_prod, count_eq_prod, List.prod_cons]

/-- Where there is an element, no dimension is zero. -/
lemma pos_of_count_pos (h : 0 < count dimensions) : ∀ d ∈ dimensions, 0 < d := by
  intro d hd
  rw [count_eq_prod] at h
  refine Nat.pos_of_ne_zero fun hzero => h.ne' ?_
  exact List.prod_eq_zero (hzero ▸ hd)

/-! ## Indices in range -/

/-- An index is in range if it has the rank of the array and each component is below its
dimension. -/
lemma inRange_iff : inRange index dimensions = true ↔ List.Forall₂ (· < ·) index dimensions := by
  induction index generalizing dimensions with
  | nil => cases dimensions <;> simp [inRange]
  | cons i index ih => cases dimensions <;> simp [inRange, ih]

/-- An index is out of range if its rank is wrong or one of its components is too large. -/
lemma inRange_eq_false_iff : inRange index dimensions = false ↔
    index.length ≠ dimensions.length ∨ ∃ p ∈ index.zip dimensions, p.2 ≤ p.1 := by
  rw [← Bool.not_eq_true, inRange_iff, List.forall₂_iff_zip, not_and_or]
  simp only [not_forall, Nat.not_lt, Prod.exists, exists_prop, ne_eq]

lemma flatten_eq_ok : flatten index dimensions = .ok flat ↔
    List.Forall₂ (· < ·) index dimensions ∧ position index dimensions = flat := by
  rw [← inRange_iff]
  unfold flatten
  split <;> simp_all

/-- The only fault of an index is to be out of range. -/
lemma flatten_eq_error_iff {e : Fault} : flatten index dimensions = .error e ↔
    e = .indexOutOfRange index dimensions ∧ (index.length ≠ dimensions.length ∨
      ∃ p ∈ index.zip dimensions, p.2 ≤ p.1) := by
  rw [← inRange_eq_false_iff]
  unfold flatten
  split
  · next hrange => simp [hrange]
  · next hrange => simp [hrange, eq_comm]

/-! ## There and back -/

/-- The position of an index, computed from another number than zero. -/
def positionFrom (start : ℕ) (index dimensions : List ℕ) : ℕ :=
  (index.zip dimensions).foldl (fun acc p => acc * p.2 + p.1) start

lemma position_eq (index dimensions : List ℕ) :
    position index dimensions = positionFrom 0 index dimensions := rfl

@[simp] lemma positionFrom_nil (start : ℕ) : positionFrom start [] dimensions = start := rfl

@[simp] lemma positionFrom_cons (start i d : ℕ) :
    positionFrom start (i :: index) (d :: dimensions) =
      positionFrom (start * d + i) index dimensions := rfl

/-- Reading an index off undoes the computation of its position, and what remains is the number
that the computation started from. -/
theorem unflattenCarry_positionFrom (h : List.Forall₂ (· < ·) index dimensions) (start : ℕ) :
    unflattenCarry (positionFrom start index dimensions) dimensions = (index, start) := by
  induction h generalizing start with
  | nil => rfl
  | @cons i d index dimensions hi _ ih =>
    have hpos : 0 < d := Nat.lt_of_le_of_lt (Nat.zero_le i) hi
    have hrem : (start * d + i) % d = i := by
      rw [Nat.add_comm, Nat.add_mul_mod_self_right, Nat.mod_eq_of_lt hi]
    have hquot : (start * d + i) / d = start := by
      rw [Nat.add_comm, Nat.add_mul_div_right i start hpos, Nat.div_eq_of_lt hi, Nat.zero_add]
    rw [positionFrom_cons, unflattenCarry, ih]
    simp only [hrem, hquot]

/-- What is read off is in range where no dimension is zero, and computing its position undoes the
reading. -/
theorem positionFrom_unflattenCarry (h : ∀ d ∈ dimensions, 0 < d) (flat : ℕ) :
    List.Forall₂ (· < ·) (unflattenCarry flat dimensions).1 dimensions ∧
      positionFrom (unflattenCarry flat dimensions).2 (unflattenCarry flat dimensions).1 dimensions
        = flat := by
  induction dimensions with
  | nil => exact ⟨.nil, rfl⟩
  | cons d dimensions ih =>
    obtain ⟨hrange, hback⟩ := ih fun d' hd' => h d' (List.mem_cons_of_mem d hd')
    have hd : 0 < d := h d List.mem_cons_self
    rw [unflattenCarry]
    refine ⟨.cons (Nat.mod_lt _ hd) hrange, ?_⟩
    rw [positionFrom_cons, Nat.div_add_mod', hback]

/-- What remains is what the number of elements goes into the position. -/
lemma unflattenCarry_snd (flat : ℕ) (dimensions : List ℕ) :
    (unflattenCarry flat dimensions).2 = flat / count dimensions := by
  induction dimensions with
  | nil => exact (Nat.div_one flat).symm
  | cons d dimensions ih =>
    rw [unflattenCarry, count_cons, Nat.mul_comm, ← Nat.div_div_eq_div_mul, ← ih]

/-- Each component moves the position on by less than its dimension. -/
lemma positionFrom_lt (h : List.Forall₂ (· < ·) index dimensions) {start bound : ℕ}
    (hstart : start < bound) : positionFrom start index dimensions < bound * count dimensions := by
  induction h generalizing start bound with
  | nil => simpa using hstart
  | @cons i d index dimensions hi _ ih =>
    have hstep : start * d + i < bound * d := by
      calc start * d + i < (start + 1) * d := by
            rw [Nat.succ_mul]
            omega
        _ ≤ bound * d := Nat.mul_le_mul_right d hstart
    rw [positionFrom_cons, count_cons, ← Nat.mul_assoc]
    exact ih hstep

/-- An index that is in range has a position below the number of elements. -/
theorem flatten_lt (h : flatten index dimensions = .ok flat) : flat < count dimensions := by
  obtain ⟨hrange, rfl⟩ := flatten_eq_ok.1 h
  have hless := positionFrom_lt hrange Nat.zero_lt_one
  rwa [Nat.one_mul] at hless

/-- The indices in range and the positions below the number of elements determine each other. -/
theorem flatten_eq_ok_iff : flatten index dimensions = .ok flat ↔
    flat < count dimensions ∧ unflatten flat dimensions = index := by
  constructor
  · intro h
    obtain ⟨hrange, rfl⟩ := flatten_eq_ok.1 h
    refine ⟨flatten_lt h, ?_⟩
    rw [unflatten, position_eq, unflattenCarry_positionFrom hrange]
  · rintro ⟨hflat, rfl⟩
    have hpos : 0 < count dimensions := Nat.lt_of_le_of_lt (Nat.zero_le flat) hflat
    obtain ⟨hrange, hback⟩ := positionFrom_unflattenCarry (pos_of_count_pos hpos) flat
    rw [unflattenCarry_snd, Nat.div_eq_of_lt hflat] at hback
    exact flatten_eq_ok.2 ⟨hrange, hback⟩

lemma le_positionFrom (h : List.Forall₂ (· < ·) index dimensions) (start : ℕ) :
    start ≤ positionFrom start index dimensions := by
  induction h generalizing start with
  | nil => exact le_rfl
  | @cons i d index dimensions hi _ ih =>
    have hpos : 0 < d := Nat.lt_of_le_of_lt (Nat.zero_le i) hi
    calc start ≤ start * d := Nat.le_mul_of_pos_right start hpos
      _ ≤ start * d + i := Nat.le_add_right _ i
      _ ≤ positionFrom (start * d + i) index dimensions := ih _

/-- On its way the computation of a position never exceeds the position. -/
lemma positionFrom_take_le (h : List.Forall₂ (· < ·) index dimensions) (start n : ℕ) :
    positionFrom start (index.take n) (dimensions.take n) ≤ positionFrom start index dimensions := by
  induction h generalizing start n with
  | nil => simp
  | cons hi hrest ih =>
    cases n with
    | zero => exact le_positionFrom (.cons hi hrest) start
    | succ n => exact ih _ n

/-! ## The order of positions -/

/-- Computations from two numbers are in the order of these numbers, and of the indices when the
numbers are the same. -/
lemma positionFrom_lt_positionFrom_iff (h : List.Forall₂ (· < ·) index dimensions)
    (h' : List.Forall₂ (· < ·) index' dimensions) (start start' : ℕ) :
    positionFrom start index dimensions < positionFrom start' index' dimensions ↔
      start < start' ∨ start = start' ∧ index < index' := by
  induction h generalizing index' start start' with
  | nil =>
    cases h'
    simp
  | @cons i d index dimensions hi _ ih =>
    obtain - | @⟨i', _, index', _, hi', hrest'⟩ := h'
    rw [positionFrom_cons, positionFrom_cons, ih hrest', List.cons_lt_cons_iff]
    rcases Nat.lt_trichotomy start start' with hlt | rfl | hgt
    · have hstep := Nat.mul_le_mul_right d hlt
      rw [Nat.succ_mul] at hstep
      have hless : start * d + i < start' * d + i' := by omega
      simp [hlt, hless]
    · simp
    · have hstep := Nat.mul_le_mul_right d hgt
      rw [Nat.succ_mul] at hstep
      have hless : start' * d + i' < start * d + i := by omega
      simp [hgt.not_gt, hgt.ne', hless.not_gt, hless.ne']

/-- Positions are in the lexicographic order of the indices. -/
theorem flatten_lt_flatten_iff (h : flatten index dimensions = .ok flat)
    (h' : flatten index' dimensions = .ok flat') : flat < flat' ↔ index < index' := by
  obtain ⟨hrange, rfl⟩ := flatten_eq_ok.1 h
  obtain ⟨hrange', rfl⟩ := flatten_eq_ok.1 h'
  rw [position_eq, position_eq, positionFrom_lt_positionFrom_iff hrange hrange']
  simp

end Index

end RegisterMap
