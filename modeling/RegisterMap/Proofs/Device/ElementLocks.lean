import Mathlib
import RegisterMap.Device.Array
import RegisterMap.Proofs.Session.Locks

/-!
# The locks of an array

The locks of the elements of an array stand under the lock of the array, which is made with them
(`RegisterArray.idle_bind`).  As long as no session is open on the array itself, the lock of an
element can be taken unless a session is open on that element (`Tended.free_iff`).  Taking it and
giving it back changes the mark of that element and the counter of the array, so the elements do not
stand in each other's way (`Tended.acquire`, `Tended.release`).
-/

namespace RegisterMap

namespace RegisterArray

variable {a : RegisterArray} {i j : ℕ}

/-- The lock of an element. -/
def elementLock (a : RegisterArray) (i : ℕ) : LockId := a.lock + 1 + i

/-- The locks of the elements stand under that of the array, on which no session is open. -/
structure Tended (a : RegisterArray) (locks : LockForest) : Prop where
  parent : ∀ i < a.size, locks.parent? (a.elementLock i) = some a.lock
  nested : ∀ i < a.size, locks.nested (a.elementLock i) = 0
  array : locks.isActive a.lock = false

/-- No session is open on the array or on an element of it. -/
structure Idle (a : RegisterArray) (locks : LockForest) : Prop extends a.Tended locks where
  inactive : ∀ i < a.size, locks.isActive (a.elementLock i) = false

lemma elementLock_injective : Function.Injective a.elementLock := fun _ _ h => Nat.add_left_cancel h

lemma elementLock_ne_lock (i : ℕ) : a.elementLock i ≠ a.lock :=
  (Nat.lt_of_lt_of_le (Nat.lt_succ_self a.lock) (Nat.le_add_right _ i)).ne'

namespace Tended

open LockForest

variable {locks : LockForest} (h : a.Tended locks) (hi : i < a.size)
include h hi

lemma lt_size : a.elementLock i < locks.states.size := lt_size_of_parent? (h.parent i hi)

/-- The lock of an element is free unless a session is open on the element. -/
lemma free_iff : locks.Free (a.elementLock i) ↔ locks.isActive (a.elementLock i) = false := by
  have hparent : locks.parentActive (a.elementLock i) = false := by
    unfold parentActive
    rw [h.parent i hi]
    exact h.array
  have hself : locks.parent? (a.elementLock i) ≠ some (a.elementLock i) := by
    rw [h.parent i hi]
    exact fun heq => elementLock_ne_lock i (Option.some.inj heq).symm
  exact ⟨And.left, fun hidle => ⟨hidle, hparent, h.nested i hi, hself⟩⟩

/-- An attempt to take the lock changes the marks of no other element. -/
lemma acquire : (locks.acquire (a.elementLock i)).1 = !locks.isActive (a.elementLock i) ∧
    a.Tended (locks.acquire (a.elementLock i)).2 ∧
    (locks.acquire (a.elementLock i)).2.isActive (a.elementLock i) = true ∧
    ∀ j ≠ i, (locks.acquire (a.elementLock i)).2.isActive (a.elementLock j) =
      locks.isActive (a.elementLock j) := by
  by_cases hfree : locks.Free (a.elementLock i)
  · rw [acquire_of_free hfree, (h.free_iff hi).1 hfree]
    refine ⟨rfl, ⟨fun j hj => ?_, fun j hj => ?_, ?_⟩, ?_, fun j hj => ?_⟩
    · rw [parent?_setActive, parent?_announce]
      exact h.parent j hj
    · rw [nested_setActive, nested_announce_of_ne, h.nested j hj]
      rw [h.parent i hi]
      exact fun heq => elementLock_ne_lock j (Option.some.inj heq).symm
    · rw [isActive_setActive_of_ne (elementLock_ne_lock i), isActive_announce]
      exact h.array
    · exact isActive_setActive_self (by rw [size_announce]; exact h.lt_size hi)
    · rw [isActive_setActive_of_ne fun heq => hj (elementLock_injective heq).symm,
        isActive_announce]
  · have hactive : locks.isActive (a.elementLock i) = true := by
      rwa [h.free_iff hi, Bool.not_eq_false] at hfree
    rw [acquire_of_not_free hfree, hactive]
    exact ⟨rfl, h, rfl, fun _ _ => rfl⟩

lemma release : a.Tended (locks.release (a.elementLock i)) ∧
    (locks.release (a.elementLock i)).isActive (a.elementLock i) = false ∧
    ∀ j ≠ i, (locks.release (a.elementLock i)).isActive (a.elementLock j) =
      locks.isActive (a.elementLock j) := by
  unfold LockForest.release
  refine ⟨⟨fun j hj => ?_, fun j hj => ?_, ?_⟩, ?_, fun j hj => ?_⟩
  · rw [parent?_withdraw, parent?_setActive]
    exact h.parent j hj
  · rw [nested_withdraw_of_ne, nested_setActive, h.nested j hj]
    rw [parent?_setActive, h.parent i hi]
    exact fun heq => elementLock_ne_lock j (Option.some.inj heq).symm
  · rw [isActive_withdraw, isActive_setActive_of_ne (elementLock_ne_lock i)]
    exact h.array
  · rw [isActive_withdraw]
    exact isActive_setActive_self (h.lt_size hi)
  · rw [isActive_withdraw, isActive_setActive_of_ne fun heq => hj (elementLock_injective heq).symm]

end Tended

/-- A new array is idle. -/
lemma idle_bind (layout : RegisterLayout) (dimensions : List ℕ) (stride : ℕ)
    (forest : LockForest) :
    (bind layout dimensions stride forest).1.Idle (bind layout dimensions stride forest).2 := by
  set a : RegisterArray := ⟨layout, dimensions, stride, forest.states.size⟩ with ha
  have helement : ∀ i < a.size, ((forest.create none).1.createChildren a.lock a.size).states[
      a.elementLock i]? = some ⟨false, 0, some a.lock⟩ := by
    intro i hi
    rw [LockForest.states_createChildren, LockForest.size_create, if_pos]
    exact ⟨Nat.le_add_right _ i, Nat.add_lt_add_left hi _⟩
  have harray : ((forest.create none).1.createChildren a.lock a.size).states[a.lock]? =
      some ⟨false, 0, none⟩ := by
    rw [LockForest.states_createChildren, LockForest.size_create, if_neg (by simp [ha]),
      LockForest.states_create, if_pos rfl]
  change a.Idle ((forest.create none).1.createChildren a.lock a.size)
  refine ⟨⟨fun i hi => ?_, fun i hi => ?_, ?_⟩, fun i hi => ?_⟩
  · rw [LockForest.parent?, helement i hi]
    rfl
  · rw [LockForest.nested, helement i hi]
    rfl
  · rw [LockForest.isActive, harray]
    rfl
  · rw [LockForest.isActive, helement i hi]
    rfl

end RegisterArray

end RegisterMap
