import Mathlib
import RegisterMap.Proofs.Export.Completeness

/-!
# Heights of shown trees

What a type consists of is looked up at the place where the type was first met, which may lie
anywhere in the tree.  Going from there to a child, and on to the place of the child's type, still
leads downwards: places that are alike have shown trees of one height (`Alike.height_eq`), and a
child's is smaller.  So no way through types is longer than the number of types (`Plan.rank_lt`).
-/

namespace RegisterMap

namespace Screen

variable (hidden : Screen)

mutual

/-- The height of what is shown in a node: the number of steps down to the lowest shown node. -/
def heightOf (above : List Node) : Node → ℕ
  | .mk id c cs => heightIn (.mk id c cs :: above) cs

/-- The largest number of steps down into some nodes. -/
def heightIn (above : List Node) : List Node → ℕ
  | [] => 0
  | n :: rest => max (if hidden ⟨above, n⟩ then 0 else heightOf above n + 1) (heightIn above rest)

end

/-- The height of the shown tree at a place. -/
def height (p : Place) : ℕ := hidden.heightOf p.above p.node

variable {hidden} {h : Hasher} {t : RegisterTree} {p q c : Place}

lemma heightIn_eq (above : List Node) (cs : List Node) : hidden.heightIn above cs =
    (((cs.map (Place.mk above)).filter fun c => !hidden c).map fun c =>
      hidden.height c + 1).foldr max 0 := by
  induction cs with
  | nil => rfl
  | cons n rest ih =>
    rw [heightIn, ih, List.map_cons, List.filter_cons]
    cases hidden ⟨above, n⟩ with
    | true => exact Nat.zero_max _
    | false => rfl

lemma height_eq (p : Place) : hidden.height p =
    ((hidden.visibleChildren p).map fun c => hidden.height c + 1).foldr max 0 := by
  obtain ⟨above, ⟨id, component, cs⟩⟩ := p
  rw [height, heightOf, heightIn_eq]
  rfl

/-- A shown child has a smaller height. -/
theorem height_lt (hc : c ∈ hidden.visibleChildren p) : hidden.height c < hidden.height p := by
  rw [height_eq p]
  have hmem : hidden.height c + 1 ∈ (hidden.visibleChildren p).map fun d => hidden.height d + 1 :=
    List.mem_map_of_mem hc
  exact List.le_max_of_le' 0 hmem (le_refl _)

/-- Places whose shown children have the same heights have one height. -/
lemma height_eq_of_forall₂ (hchildren : List.Forall₂
    (fun c d => hidden.height c.1 = hidden.height d.1) (hidden.accessors p) (hidden.accessors q)) :
    hidden.height p = hidden.height q := by
  have hmap (r : Place) : (hidden.visibleChildren r).map (fun c => hidden.height c + 1) =
      (hidden.accessors r).map fun child => hidden.height child.1 + 1 := by
    rw [← map_fst_accessors, List.map_map]
    rfl
  have heights : (hidden.accessors p).map (fun child => hidden.height child.1 + 1) =
      (hidden.accessors q).map fun child => hidden.height child.1 + 1 := by
    refine List.forall₂_eq_eq_eq ▸ ?_
    rw [List.forall₂_map_left_iff, List.forall₂_map_right_iff]
    exact hchildren.imp fun c d hcd => congrArg (· + 1) hcd
  rw [height_eq, height_eq, hmap, hmap, heights]

lemma height_field (ht : t.Loaded) (hp : p ∈ t.top.subtree) (hkind : p.node.kind = .field) :
    hidden.height p = 0 := by
  rw [height_eq, ← map_fst_accessors, accessors_field ht hp hkind]
  rfl

/-- Places that are alike have one height. -/
theorem Alike.height_eq (ht : t.Loaded) (hp : p ∈ t.top.subtree) (hq : q ∈ t.top.subtree)
    (halike : hidden.Alike h t p q) : hidden.height p = hidden.height q := by
  induction halike with
  | field hpkind hqkind => rw [height_field ht hp hpkind, height_field ht hq hqkind]
  | @register p q _ _ fields =>
    obtain ⟨hlength, hfields⟩ := List.forall₂_iff_zip.1 fields
    refine height_eq_of_forall₂ (List.forall₂_iff_zip.2 ⟨hlength, fun {c d} hcd => ?_⟩)
    obtain ⟨hc, hd⟩ := List.of_mem_zip hcd
    obtain ⟨f, g, hf, hg, -⟩ := (hfields hcd).details
    have hcchild := mem_children_of_visible (fst_mem_of_mem_accessors hc)
    have hdchild := mem_children_of_visible (fst_mem_of_mem_accessors hd)
    rw [height_field ht (Place.children_mem_subtree hp hcchild) (congrArg Detail.kind hf),
      height_field ht (Place.children_mem_subtree hq hdchild) (congrArg Detail.kind hg)]
  | @group p q _ _ _ members _ ih =>
    obtain ⟨hlength, -⟩ := List.forall₂_iff_zip.1 members
    refine height_eq_of_forall₂ (List.forall₂_iff_zip.2 ⟨hlength, fun {c d} hcd => ?_⟩)
    obtain ⟨hc, hd⟩ := List.of_mem_zip hcd
    exact ih c d hcd
      (Place.children_mem_subtree hp (mem_children_of_visible (fst_mem_of_mem_accessors hc)))
      (Place.children_mem_subtree hq (mem_children_of_visible (fst_mem_of_mem_accessors hd)))

end Screen

/-! ## Ranks -/

namespace Plan

variable {hidden : Screen} {plan : Plan} {p q : Place}

/-- The number of types that are of smaller height than a place. -/
def rank (plan : Plan) (hidden : Screen) (p : Place) : ℕ :=
  plan.records.countP fun r => hidden.height r.place < hidden.height p

lemma rank_le (plan : Plan) (hidden : Screen) (p : Place) :
    plan.rank hidden p ≤ plan.records.length :=
  List.countP_le_length

/-- The place of a type has a smaller rank than all places of a larger height. -/
theorem rank_lt {r : TypeRecord} (hr : r ∈ plan.records)
    (hheight : hidden.height r.place < hidden.height p) :
    plan.rank hidden r.place < plan.rank hidden p := by
  obtain ⟨before, after, hrecords⟩ := List.append_of_mem hr
  have hmono : ∀ l : List TypeRecord,
      l.countP (fun r' => hidden.height r'.place < hidden.height r.place) ≤
        l.countP fun r' => hidden.height r'.place < hidden.height p := by
    intro l
    refine List.countP_mono_left fun r' _ hlt => ?_
    simp only [decide_eq_true_eq] at hlt ⊢
    exact hlt.trans hheight
  have hbefore := hmono before
  have hafter := hmono after
  unfold rank
  rw [hrecords, List.countP_append, List.countP_append, List.countP_cons_of_neg (by simp),
    List.countP_cons_of_pos (by simpa using hheight)]
  omega

end Plan

end RegisterMap
