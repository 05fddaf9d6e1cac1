import Mathlib
import RegisterMap.Proofs.Overflow
import RegisterMap.Proofs.Tree.Registers

/-!
# Addresses and counts of elements

The address of a place and the number of elements of an array are computed step by step.  What they
are is said here without a bound, by plain sums and products (`Place.totalOffset`,
`Component.elementCount`): all steps before the last one have smaller results, so a computation ends
exactly if its last result fits.  For products this needs factors that are not zero, which is what
the loader asks of the dimensions of an array.
-/

namespace RegisterMap

/-! ## Addresses -/

/-- The address of element 0, without a bound: the sum of the offsets on the way up. -/
def Place.totalOffset (p : Place) : ℕ := ((p.node :: p.above).map (·.component.offset)).sum

lemma foldlM_offset_ends (ns : List Node) {start : ℕ} (hstart : start < valueCount addressWidth) :
    EndsIff Overflows (start + (ns.map (·.component.offset)).sum < valueCount addressWidth)
      (start + (ns.map (·.component.offset)).sum)
      (ns.foldlM (fun acc n => checkedSum acc n.component.offset) start) := by
  induction ns generalizing start with
  | nil => exact ⟨fun _ => rfl, fun h => absurd hstart h⟩
  | cons n rest ih =>
    rw [List.foldlM_cons, List.map_cons, List.sum_cons, ← Nat.add_assoc]
    have hstep := checkedSum_ends start n.component.offset
    by_cases hfits : start + n.component.offset < valueCount addressWidth
    · rw [bind_of_eq_ok (hstep.ends hfits)]
      exact ih hfits
    · obtain ⟨e, he, hfault⟩ := hstep.fails hfits
      rw [hfault]
      exact ⟨fun h => absurd h (by omega), fun _ => ⟨e, he, rfl⟩⟩

/-- The address of a place is the sum of the offsets, if that fits. -/
theorem Place.address_ends (p : Place) :
    EndsIff Overflows (p.totalOffset < valueCount addressWidth) p.totalOffset p.address := by
  have hfold := foldlM_offset_ends (p.node :: p.above) (Nat.two_pow_pos addressWidth)
  rwa [Nat.zero_add] at hfold

/-! ## Counts of elements -/

/-- The number of elements of a node, without a bound. -/
def Component.elementCount (c : Component) : ℕ := (c.array.map (·.dimensions.prod)).getD 1

/-- The distance of the elements of a node. -/
def Component.elementStride (c : Component) : ℕ := (c.array.map (·.stride)).getD 0

lemma foldlM_product_ends {ns : List ℕ} (hns : ∀ n ∈ ns, n ≠ 0) (start : ℕ)
    (hstart : start < valueCount addressWidth) :
    EndsIff Overflows (start * ns.prod < valueCount addressWidth) (start * ns.prod)
      (ns.foldlM checkedProduct start) := by
  induction ns generalizing start with
  | nil =>
    exact ⟨fun _ => congrArg Except.ok (Nat.mul_one _).symm,
      fun h => absurd hstart (by simpa using h)⟩
  | cons n rest ih =>
    obtain ⟨-, hrest⟩ := List.forall_mem_cons.1 hns
    rw [List.foldlM_cons, List.prod_cons, ← Nat.mul_assoc]
    have hstep := checkedProduct_ends start n
    by_cases hfits : start * n < valueCount addressWidth
    · rw [bind_of_eq_ok (hstep.ends hfits)]
      exact ih hrest _ hfits
    · obtain ⟨e, he, hfault⟩ := hstep.fails hfits
      have hpos : 0 < rest.prod := List.prod_pos fun m hm => Nat.pos_of_ne_zero (hrest m hm)
      have hle : start * n ≤ start * n * rest.prod := Nat.le_mul_of_pos_right _ hpos
      rw [hfault]
      exact ⟨fun h => absurd (hle.trans_lt h) hfits, fun _ => ⟨e, he, rfl⟩⟩

/-- The number of elements of an array is the product of its dimensions, if that fits. -/
theorem ArrayShape.WellFormed.length_ends {a : ArrayShape} (ha : a.WellFormed) :
    EndsIff Overflows (a.dimensions.prod < valueCount addressWidth) a.dimensions.prod a.length := by
  have hfold := foldlM_product_ends ha.dimensions_ne_zero 1 (by decide)
  rwa [Nat.one_mul] at hfold

/-- The arrays of a loaded tree have elements. -/
lemma RegisterTree.Loaded.array_wellFormed {t : RegisterTree} (ht : t.Loaded) {p : Place}
    (hp : p ∈ t.top.subtree) {a : ArrayShape} (ha : p.node.component.array = some a) :
    a.WellFormed := by
  obtain ⟨above, register, id, ⟨attributes, ds⟩, h⟩ := ht.accepted hp
  obtain ⟨component, nodes, hcomponent, -, -, hnode⟩ := Node.ofDescription_eq_ok h
  obtain ⟨harray, detail, -, rfl⟩ := Attributes.toComponent_eq_ok_iff.1 hcomponent
  rw [hnode] at ha
  exact harray a ha

/-- Every node of a loaded tree has an element. -/
lemma RegisterTree.Loaded.elementCount_pos {t : RegisterTree} (ht : t.Loaded) {p : Place}
    (hp : p ∈ t.top.subtree) : 0 < p.node.component.elementCount := by
  unfold Component.elementCount
  cases ha : p.node.component.array with
  | none => exact Nat.one_pos
  | some a =>
    exact List.prod_pos fun n hn =>
      Nat.pos_of_ne_zero ((ht.array_wellFormed hp ha).dimensions_ne_zero n hn)

end RegisterMap
