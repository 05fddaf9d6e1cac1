import Mathlib
import RegisterMap.Overflow
import RegisterMap.Proofs.Results

/-!
# When addresses fit

Addresses and counts are computed with 64 bits, step by step, and a step that needs more bits has no
outcome.  A computation of several steps ends exactly if its last result fits, as long as no step
before it can be larger.
-/

namespace RegisterMap

/-- Any overflow. -/
abbrev Overflows : Overflow → Prop := fun _ => True

lemma checkedSum_ends (m n : ℕ) :
    EndsIff Overflows (m + n < valueCount addressWidth) (m + n) (checkedSum m n) where
  ends h := if_pos h
  fails h := ⟨.sum, trivial, if_neg h⟩

lemma checkedProduct_ends (m n : ℕ) :
    EndsIff Overflows (m * n < valueCount addressWidth) (m * n) (checkedProduct m n) where
  ends h := if_pos h
  fails h := ⟨.product, trivial, if_neg h⟩

/-- The address of an element is there if it fits. -/
lemma elementAddress_ends (base i distance : ℕ) :
    EndsIff Overflows (base + i * distance < valueCount addressWidth) (base + i * distance)
      (elementAddress base i distance) := by
  refine ((checkedProduct_ends i distance).bind (checkedSum_ends base (i * distance))).iff ?_
  exact ⟨And.right, fun h => ⟨by omega, h⟩⟩

end RegisterMap
