import Mathlib
import RegisterMap.Proofs.Export.Pruning

/-!
# Trees without their hidden nodes

`RegisterTree.pruned` deletes every hidden node of a tree with all that is in it.  The nodes that
are left get numbers of their own, whatever these are.  The export root stays where it is, with all that
is above it (`top_mem_pruned`), and nothing in it is hidden any more (`shown_of_mem_pruned`).
-/

namespace RegisterMap

namespace RegisterTree

/-- The node is not deleted: it is shown, or the export root lies in it. -/
def survives (hide : Hiding) (t : RegisterTree) (p : Place) : Bool :=
  !hide.isHidden t p || (p.id < t.top.id && t.top.id < p.id + p.node.size)

/-- The deletion of the hidden nodes. -/
def pruning (hide : Hiding) (t : RegisterTree) (number : ℕ → ℕ)
    (injective : Function.Injective number) : Restriction := ⟨t.survives hide, number, injective⟩

/-- The tree without its hidden nodes, with these numbers in the place of the old ones. -/
def pruned (hide : Hiding) (t : RegisterTree) (number : ℕ → ℕ)
    (injective : Function.Injective number) : RegisterTree :=
  (t.pruning hide number injective).tree t

variable {hide : Hiding} {t : RegisterTree} {number : ℕ → ℕ} {injective : Function.Injective number}

/-- No node in the export root has the export root in it. -/
lemma keepsShown_pruning (ht : t.Loaded) :
    (t.pruning hide number injective).KeepsShown hide t := by
  intro p hp
  have hle : t.top.id ≤ p.id := by
    have hmem : p.id ∈ t.top.subtree.map Place.id := List.mem_map_of_mem hp
    rw [Place.ids_subtree ht.numbered_top, List.mem_range'_1] at hmem
    exact hmem.1
  have hnotAbove : decide (p.id < t.top.id) = false := decide_eq_false (Nat.not_lt.2 hle)
  change (!hide.isHidden t p || (decide (p.id < t.top.id) && _)) = _
  rw [hnotAbove, Bool.false_and, Bool.or_false]

/-- The export root is a node of the tree without the hidden nodes. -/
theorem top_mem_pruned (ht : t.Loaded) (htop : hide.isHidden t t.top = false) :
    (t.pruned hide number injective).top ∈
      Place.subtree ⟨[], (t.pruned hide number injective).root⟩ := by
  obtain ⟨hroot, hmem⟩ := ht.numbered
  refine Restriction.place_mem_subtree (R := t.pruning hide number injective) hmem ?_
  intro r hr htopr
  have hrroot : r ∈ Place.subtree ⟨[], t.root⟩ := Place.mem_subtree_iff.2 (.inr hr)
  change (!hide.isHidden t r || _) = true
  rcases Place.mem_subtree_iff.1 htopr with rfl | hinside
  · rw [htop]
    rfl
  · obtain ⟨hlow, hhigh⟩ := (Place.inside_iff hroot hmem hrroot).1 hinside
    rw [decide_eq_true hlow, decide_eq_true hhigh, Bool.and_self, Bool.or_true]

/-- Every node in the export root that is left was shown, and is shown now. -/
theorem shown_of_mem_pruned (ht : t.Loaded) (htop : hide.isHidden t t.top = false) {p : Place}
    (hp : p ∈ (t.pruned hide number injective).top.subtree) :
    ∃ q ∈ t.top.subtree, p = (t.pruning hide number injective).place q ∧
      hide.isHidden t q = false ∧ hide.isHidden (t.pruned hide number injective) p = false := by
  have hkeeps : (t.pruning hide number injective).KeepsShown hide t := keepsShown_pruning ht
  have hpart : ∀ p ∈ ((t.pruning hide number injective).place t.top).subtree,
      ∃ q ∈ t.top.subtree, p = (t.pruning hide number injective).place q ∧
        hide.isHidden t q = false := by
    intro p hp
    induction p, hp using Place.subtree_induction with
    | top => exact ⟨t.top, t.top.mem_subtree_self, rfl, htop⟩
    | child r _ ih c hc =>
      obtain ⟨q, hq, rfl, -⟩ := ih
      rw [Restriction.children_place] at hc
      obtain ⟨d, hd, rfl⟩ := List.mem_map.1 hc
      obtain ⟨hchild, hkept⟩ := List.mem_filter.1 hd
      have hdtop := Place.children_mem_subtree hq hchild
      rw [hkeeps d hdtop] at hkept
      exact ⟨d, hdtop, rfl, by simpa using hkept⟩
  obtain ⟨q, hq, rfl, hshown⟩ := hpart p hp
  exact ⟨q, hq, rfl, hshown, Restriction.isHidden_place hkeeps hq hshown⟩

end RegisterTree

end RegisterMap
