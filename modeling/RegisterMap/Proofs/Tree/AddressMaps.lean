import Mathlib
import RegisterMap.Proofs.Tree.Contents

/-!
# The walk over address maps

The address maps in the export root are met on a walk that keeps the ones to come on a stack.  A
round takes one from the stack and puts its own there in reverse, so the stack holds what is to come
in the order of the tree: what has been met and what the stack leads to are together the same after
every round (`MapWalk.outcome_round`).  The walk therefore ends after as many rounds as there are
address maps (`MapWalk.rounds_end`), with the recursive traversal as its result.

Only address maps hold address maps, so a loaded tree has none beside those that are reached through
address maps alone (`Loaded.addressMaps_eq_filter`), and the numbers of the nodes give their order.
-/

namespace RegisterMap

/-! ## The recursive traversal -/

namespace Place

mutual

/-- The address maps that are reached through address maps alone, parents before children. -/
def addressMaps (above : List Node) : Node → List Place
  | n@(.mk _ c cs) =>
    if c.kind = .addressMap then ⟨above, n⟩ :: addressMapsIn (n :: above) cs else []

/-- The address maps in several trees. -/
def addressMapsIn (above : List Node) : List Node → List Place
  | [] => []
  | n :: rest => addressMaps above n ++ addressMapsIn above rest

end

/-- The address maps that are reached from a place. -/
def maps (p : Place) : List Place := addressMaps p.above p.node

variable {p : Place}

lemma addressMapsIn_eq_flatMap (above : List Node) (cs : List Node) :
    addressMapsIn above cs = cs.flatMap (addressMaps above) := by
  induction cs with
  | nil => rfl
  | cons n rest ih => rw [addressMapsIn, ih, List.flatMap_cons]

lemma maps_of_addressMap (hp : p.node.kind = .addressMap) :
    p.maps = p :: p.children.flatMap maps := by
  obtain ⟨above, ⟨id, c, cs⟩⟩ := p
  rw [maps, addressMaps, if_pos (show c.kind = .addressMap from hp), addressMapsIn_eq_flatMap,
    children, List.flatMap_map]
  rfl

lemma maps_of_not_addressMap (hp : p.node.kind ≠ .addressMap) : p.maps = [] := by
  obtain ⟨above, ⟨id, c, cs⟩⟩ := p
  rw [maps, addressMaps, if_neg (show c.kind ≠ .addressMap from hp)]

/-- Places that are not address maps lead to none. -/
lemma flatMap_maps_filter (ps : List Place) :
    (ps.filter fun p => p.node.kind = .addressMap).flatMap maps = ps.flatMap maps := by
  induction ps with
  | nil => rfl
  | cons p rest ih =>
    by_cases hp : p.node.kind = .addressMap
    · rw [List.filter_cons_of_pos (by simpa using hp), List.flatMap_cons, List.flatMap_cons, ih]
    · rw [List.filter_cons_of_neg (by simpa using hp), List.flatMap_cons,
        maps_of_not_addressMap hp, ih, List.nil_append]

end Place

/-! ## The walk -/

namespace MapWalk

variable {w next : MapWalk}

/-- There are only address maps on the stack. -/
def OnMaps (w : MapWalk) : Prop := ∀ p ∈ w.stack, p.node.kind = .addressMap

/-- What is to be met. -/
def ahead (w : MapWalk) : List Place := w.stack.flatMap Place.maps

/-- What has been met and what is to be met. -/
def outcome (w : MapWalk) : List Place := w.met.toList ++ w.ahead

/-- The walk after a number of rounds, if there are so many. -/
def rounds : ℕ → MapWalk → Option MapWalk
  | 0, w => some w
  | k + 1, w => w.round?.bind (rounds k)

lemma round?_eq_none_iff : w.round? = none ↔ w.stack = [] := by
  obtain ⟨met, _ | ⟨p, rest⟩⟩ := w
  · exact ⟨fun _ => rfl, fun _ => rfl⟩
  · exact ⟨nofun, nofun⟩

lemma run_of_none (h : w.round? = none) : w.run = w.met := by
  rw [run, h]

lemma run_of_some (h : w.round? = some next) : w.run = next.run := by
  rw [run, h]

lemma OnMaps.round (hw : w.OnMaps) (h : w.round? = some next) : next.OnMaps := by
  obtain ⟨p, rest, hstack, -, hnext⟩ := round?_eq_some h
  intro q hq
  rw [hnext, List.mem_append] at hq
  rcases hq with hfound | hrest
  · simpa using (List.mem_filter.1 hfound).2
  · exact hw q (hstack ▸ List.mem_cons_of_mem p hrest)

/-- A round meets the first of what is to be met. -/
lemma OnMaps.ahead_round (hw : w.OnMaps) (h : w.round? = some next) :
    ∃ p, w.ahead = p :: next.ahead ∧ next.met = w.met.push p := by
  obtain ⟨p, rest, hstack, hmet, hnext⟩ := round?_eq_some h
  have hp : p.node.kind = .addressMap := hw p (hstack ▸ List.mem_cons_self)
  refine ⟨p, ?_, hmet⟩
  rw [ahead, ahead, hstack, hnext, List.flatMap_cons, Place.maps_of_addressMap hp,
    List.flatMap_append, Place.flatMap_maps_filter, List.cons_append]

/-- What is met in the end is the same after a round. -/
theorem OnMaps.outcome_round (hw : w.OnMaps) (h : w.round? = some next) :
    next.outcome = w.outcome := by
  obtain ⟨p, hahead, hmet⟩ := hw.ahead_round h
  rw [outcome, outcome, hahead, hmet, Array.toList_push, List.append_assoc, List.singleton_append]

/-- The walk ends after a round for each address map that is to be met. -/
theorem OnMaps.rounds_end (hw : w.OnMaps) :
    ∃ last, rounds w.ahead.length w = some last ∧ last.round? = none ∧ last.met = w.run := by
  induction w using MapWalk.run.induct with
  | case1 w hnone =>
    have hahead : w.ahead = [] := by rw [ahead, round?_eq_none_iff.1 hnone, List.flatMap_nil]
    exact ⟨w, by rw [hahead]; rfl, hnone, (run_of_none hnone).symm⟩
  | case2 w next hround ih =>
    obtain ⟨p, hahead, -⟩ := hw.ahead_round hround
    obtain ⟨last, hrounds, hend, hmet⟩ := ih (hw.round hround)
    refine ⟨last, ?_, hend, hmet.trans (run_of_some hround).symm⟩
    rw [hahead, List.length_cons, rounds, hround]
    exact hrounds

/-- The walk meets what it was to meet. -/
theorem OnMaps.run_eq (hw : w.OnMaps) : w.run.toList = w.outcome := by
  induction w using MapWalk.run.induct with
  | case1 w hnone =>
    rw [run_of_none hnone, outcome, ahead, round?_eq_none_iff.1 hnone, List.flatMap_nil,
      List.append_nil]
  | case2 w next hround ih =>
    rw [run_of_some hround, ← hw.outcome_round hround]
    exact ih (hw.round hround)

end MapWalk

namespace RegisterTree

variable {t : RegisterTree} {p c : Place}

/-- Only address maps hold address maps. -/
lemma Loaded.addressMap_of_child (ht : t.Loaded) (hp : p ∈ t.top.subtree) (hc : c ∈ p.children)
    (hkind : c.node.kind = .addressMap) : p.node.kind = .addressMap := by
  have hcontain := ht.mayContain hp hc
  rw [hkind] at hcontain
  cases hp : p.node.kind with
  | addressMap => rfl
  | _ => rw [hp] at hcontain; cases hcontain

/-- All address maps in a place of a loaded tree are reached through address maps. -/
theorem Loaded.maps_eq_filter (ht : t.Loaded) (hp : p ∈ t.top.subtree) :
    p.maps = p.subtree.filter fun q => q.node.kind = .addressMap := by
  induction p using Place.induction with
  | step p ih =>
    have hchildren : p.children.flatMap Place.maps =
        (p.children.flatMap Place.subtree).filter fun q => q.node.kind = .addressMap := by
      rw [List.filter_flatMap]
      exact List.flatMap_congr fun c hc => ih c hc (Place.children_mem_subtree hp hc)
    rw [Place.subtree_eq]
    by_cases hkind : p.node.kind = .addressMap
    · rw [Place.maps_of_addressMap hkind, List.filter_cons_of_pos (by simpa using hkind), hchildren]
    · -- a place that is not an address map holds none
      have hnone : p.children.flatMap Place.maps = [] := by
        refine List.flatMap_eq_nil_iff.2 fun c hc => Place.maps_of_not_addressMap fun hc' => ?_
        exact hkind (ht.addressMap_of_child hp hc hc')
      rw [Place.maps_of_not_addressMap hkind, List.filter_cons_of_neg (by simpa using hkind),
        ← hchildren, hnone]

/-- The walk begins at the export root, which is an address map. -/
lemma Loaded.onMaps (ht : t.Loaded) : MapWalk.OnMaps ⟨#[], [t.top]⟩ := by
  intro p hp
  rw [List.mem_singleton.1 hp]
  exact ht.kind_top

lemma ahead_start (t : RegisterTree) : MapWalk.ahead ⟨#[], [t.top]⟩ = t.top.maps :=
  List.flatMap_singleton Place.maps t.top

lemma Loaded.addressMaps_eq (ht : t.Loaded) : t.addressMaps = t.top.maps := by
  rw [addressMaps, ht.onMaps.run_eq, MapWalk.outcome, ahead_start]
  rfl

theorem Loaded.addressMaps_eq_filter (ht : t.Loaded) :
    t.addressMaps = t.top.subtree.filter fun p => p.node.kind = .addressMap :=
  ht.addressMaps_eq.trans (ht.maps_eq_filter t.top.mem_subtree_self)

/-- The numbers of the address maps grow. -/
lemma Loaded.pairwise_addressMaps (ht : t.Loaded) :
    (t.addressMaps.map Place.id).Pairwise (· < ·) := by
  have hsublist : (t.addressMaps.map Place.id).Sublist (t.top.subtree.map Place.id) := by
    rw [ht.addressMaps_eq_filter]
    exact List.filter_sublist.map Place.id
  rw [Place.ids_subtree ht.numbered_top] at hsublist
  exact List.Pairwise.sublist hsublist (List.pairwise_lt_range' _)

lemma Loaded.length_addressMaps_le (ht : t.Loaded) :
    t.addressMaps.length ≤ t.top.node.size := by
  have hids := congrArg List.length (Place.ids_subtree ht.numbered_top)
  rw [List.length_map, List.length_range'] at hids
  rw [ht.addressMaps_eq_filter, ← hids]
  exact List.length_filter_le _ _

/-- **The address maps are met in the order of the tree.**  What is met on the walk from the export
root of a loaded tree, wherever that has been moved to, is what the recursive traversal through
address maps meets, and what is left of the traversal of everything in the export root when all but
the address maps are left out: the address maps in the export root, each once, with growing numbers
and the export root first.  The walk ends, after one round for each of them. -/
theorem address_maps_in_preorder {t : RegisterTree} (ht : t.Loaded) :
    t.addressMaps = Place.addressMaps t.top.above t.top.node ∧
    t.addressMaps = t.top.subtree.filter (fun p => p.node.kind = .addressMap) ∧
    (∀ p, p ∈ t.addressMaps ↔ p ∈ t.top.subtree ∧ p.node.kind = .addressMap) ∧
    t.addressMaps.Nodup ∧
    (t.addressMaps.map Place.id).Pairwise (· < ·) ∧
    t.addressMaps.head? = some t.top ∧
    t.addressMaps.length ≤ t.top.node.size ∧
    ∃ last, MapWalk.rounds t.addressMaps.length ⟨#[], [t.top]⟩ = some last ∧
      last.round? = none ∧ last.met.toList = t.addressMaps := by
  have hpairwise := ht.pairwise_addressMaps
  refine ⟨ht.addressMaps_eq, ht.addressMaps_eq_filter, fun p => ?_, ?_, hpairwise, ?_,
    ht.length_addressMaps_le, ?_⟩
  · rw [ht.addressMaps_eq_filter, List.mem_filter, decide_eq_true_iff]
  · exact List.Nodup.of_map Place.id (hpairwise.imp Nat.ne_of_lt)
  · rw [ht.addressMaps_eq, Place.maps_of_addressMap ht.kind_top, List.head?_cons]
  · obtain ⟨last, hrounds, hend, hmet⟩ := ht.onMaps.rounds_end
    rw [ahead_start, ← ht.addressMaps_eq] at hrounds
    exact ⟨last, hrounds, hend, by rw [hmet, addressMaps]⟩

/-- Address maps at two levels, with a register before, between and behind them. -/
def mapsAmongRegisters : Description :=
  .group .addressMap "top" 0 [
    .register "a" 0 [.resetField "f" 0 0 0],
    .group .addressMap "left" 0x100 [
      .group .registerFile "file" 0 [.register "b" 0 [.resetField "f" 0 0 0]],
      .group .addressMap "inner" 0x20 [.register "c" 0 [.resetField "f" 0 0 0]]],
    .group .addressMap "right" 0x200 [.register "d" 0 [.resetField "f" 0 0 0]],
    .register "e" 0x300 [.resetField "f" 0 0 0]]

/-- The inner map comes before the one that stands beside the map around it. -/
theorem address_maps_among_registers :
    mapsAmongRegisters.tree.Loaded ∧
      mapsAmongRegisters.tree.addressMaps.map (fun p => (p.id, mapsAmongRegisters.tree.path p)) =
        [(0, "top"), (3, "top.left"), (7, "top.left.inner"), (10, "top.right")] := by
  have ht : mapsAmongRegisters.tree.Loaded := Description.loaded_tree (by decide +kernel)
  refine ⟨ht, ?_⟩
  rw [(address_maps_in_preorder ht).1]
  decide +kernel

end RegisterTree

end RegisterMap
