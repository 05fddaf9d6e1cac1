import Mathlib
import RegisterMap.Proofs.Tree.Order

/-!
# Paths and lookup

A path is made on the way up from a place to the export root, and looked up on the way down from the
export root or from the root of the whole tree.  Where the parts of a node have different names and
no name has a dot in it (`ProperlyNamed`), each way undoes the other: the names on the way up lead
down to the place again (`Loaded.names_lead_back`), the text of a path is cut into just these names
(`splitOn_intercalate_dot`), and the export root is tried first.

The export root may be moved any number of times (`chooseTops`).  What is said of paths holds after
every selection, be it accepted or refused, because a selection changes nothing but the export root
(`Loaded.run_chooseTop`).
-/

namespace RegisterMap

/-! ## Cutting a text at its dots -/

section Dots

open String

/-- The cutting, part of the way through a text: behind `l` the piece `m` has been read, and `r` is
still to be read. -/
lemma splitOnAux_dot (l m r : List Char) (pieces : List String) :
    String.splitOnAux (ofList (l ++ m ++ r)) "." ⟨utf8Len l⟩ ⟨utf8Len l + utf8Len m⟩ 0 pieces =
      pieces.reverse ++ (List.splitOnPPrepend (· == '.') r m.reverse).map ofList := by
  induction r generalizing l m pieces with
  | nil =>
    have hend : Pos.Raw.atEnd (ofList (l ++ m ++ [])) ⟨utf8Len l + utf8Len m⟩ = true := by
      rw [← utf8Len_append, atEnd_of_valid]
    unfold String.splitOnAux
    rw [if_pos hend, extract_of_valid l m [], List.reverse_cons]
    simp
  | cons c r ih =>
    have hend : ¬ Pos.Raw.atEnd (ofList (l ++ m ++ c :: r)) ⟨utf8Len l + utf8Len m⟩ = true := by
      rw [← utf8Len_append, atEnd_of_valid]
      exact List.cons_ne_nil c r
    have hget : Pos.Raw.get (ofList (l ++ m ++ c :: r)) ⟨utf8Len l + utf8Len m⟩ = c := by
      rw [← utf8Len_append, get_of_valid]
      rfl
    have hnext : Pos.Raw.next (ofList (l ++ m ++ c :: r)) ⟨utf8Len l + utf8Len m⟩ =
        ⟨utf8Len l + utf8Len m + c.utf8Size⟩ := by
      rw [← utf8Len_append, next_of_valid]
    have hdot : Pos.Raw.get "." 0 = '.' := by decide
    have hafter : Pos.Raw.next "." 0 = ⟨1⟩ := by decide
    have hlast : Pos.Raw.atEnd "." ⟨1⟩ = true := by decide
    unfold String.splitOnAux
    rw [if_neg hend, hget, hdot, List.splitOnPPrepend_cons_eq_if]
    by_cases hc : (c == '.') = true
    · -- the piece ends before the dot, and the next one begins behind it
      obtain rfl := beq_iff_eq.1 hc
      have hback : Pos.Raw.unoffsetBy ⟨utf8Len l + utf8Len m + '.'.utf8Size⟩ ⟨1⟩ =
          ⟨utf8Len l + utf8Len m⟩ := rfl
      have hrest := ih (l ++ m ++ ['.']) [] (ofList m :: pieces)
      rw [List.append_nil, List.append_assoc _ ['.'], List.singleton_append, utf8Len_append,
        utf8Len_append] at hrest
      rw [if_pos hc, if_pos hc, hafter, if_pos hlast, hnext, hback, extract_of_valid]
      refine hrest.trans ?_
      rw [List.reverse_cons, List.append_assoc, List.reverse_reverse, List.reverse_nil,
        List.splitOnPPrepend_nil_right]
      rfl
    · have hback : Pos.Raw.unoffsetBy ⟨utf8Len l + utf8Len m⟩ 0 = ⟨utf8Len l + utf8Len m⟩ := rfl
      have hrest := ih l (m ++ [c]) pieces
      rw [← List.append_assoc, List.append_assoc _ [c], List.singleton_append, utf8Len_append,
        utf8Len_cons, utf8Len_nil, Nat.zero_add, List.reverse_append] at hrest
      rw [if_neg hc, if_neg hc, hback, hnext, Nat.add_assoc]
      exact hrest

/-- A text is cut at its dots. -/
lemma splitOn_dot (s : String) : s.splitOn "." = (s.toList.splitOn '.').map ofList := by
  have hcut := splitOnAux_dot [] [] s.toList []
  rw [List.nil_append, List.nil_append, String.ofList_toList] at hcut
  rw [String.splitOn, if_neg (by decide), List.splitOn_eq_splitOnP]
  exact hcut

/-- Names without dots are what their text is cut into at the dots between them. -/
lemma splitOn_intercalate_dot {names : List String} (hne : names ≠ [])
    (h : ∀ name ∈ names, '.' ∉ name.toList) : (String.intercalate "." names).splitOn "." = names := by
  have hcut : (['.'].intercalate (names.map String.toList)).splitOn '.' =
      names.map String.toList := by
    refine List.splitOn_intercalate '.' ?_ (by simpa using hne)
    simpa using h
  rw [splitOn_dot, String.toList_intercalate, show ".".toList = ['.'] from rfl, hcut, List.map_map]
  simp

end Dots

/-! ## Going up and going down -/

namespace Place

variable {p q c : Place}

lemma above_of_mem_children (hc : c ∈ p.children) : c.above = p.node :: p.above := by
  obtain ⟨n, -, rfl⟩ := List.mem_map.1 hc
  rfl

/-- One step more down. -/
lemma descend_concat (p : Place) (names : List String) (name : String) :
    p.descend (names ++ [name]) =
      (p.descend names).bind fun q => q.children.find? fun c => c.node.instName == name := by
  induction names generalizing p with
  | nil =>
    rw [List.nil_append, descend, descend, Option.bind_some]
    cases p.children.find? fun c => c.node.instName == name <;> rfl
  | cons first rest ih =>
    rw [List.cons_append, descend, descend]
    cases p.children.find? fun c => c.node.instName == first with
    | none => rfl
    | some c => exact ih c

/-- Among children of different names a child is found by its name. -/
lemma find?_children (hnodup : (p.node.children.map Node.instName).Nodup) (hc : c ∈ p.children) :
    (p.children.find? fun d => d.node.instName == c.node.instName) = some c := by
  have hnames : (p.children.map fun d => d.node.instName).Nodup := by
    rw [children, List.map_map]
    exact hnodup
  cases hfind : p.children.find? fun d => d.node.instName == c.node.instName with
  | none => exact absurd (beq_self_eq_true _) (List.find?_eq_none.1 hfind c hc)
  | some d =>
    have hname : d.node.instName = c.node.instName := by simpa using List.find?_some hfind
    rw [List.inj_on_of_nodup_map hnames (List.mem_of_find?_eq_some hfind) hc hname]

/-- On the way up a child comes before the place that it is in. -/
lemma namesUpTo_child {id : ℕ} (hc : c ∈ p.children) (hid : c.id ≠ id) :
    namesUpTo id (c.node :: c.above) = c.node.instName :: namesUpTo id (p.node :: p.above) := by
  rw [namesUpTo, if_neg (show c.node.id ≠ id from hid), above_of_mem_children hc]

lemma namesUpTo_self (p : Place) : namesUpTo p.id (p.node :: p.above) = [p.node.instName] := by
  rw [namesUpTo, if_pos (show p.node.id = p.id from rfl)]

end Place

namespace RegisterTree

/-! ## Trees with proper names -/

/-- The parts of a node have different names, and no name has a dot in it. -/
structure ProperlyNamed (t : RegisterTree) : Prop where
  siblings : ∀ p ∈ t.places, (p.node.children.map Node.instName).Nodup
  no_dot : ∀ p ∈ t.places, '.' ∉ p.node.instName.toList

variable {t t' : RegisterTree} {p c : Place}

lemma Loaded.mem_places (ht : t.Loaded) (hp : p ∈ t.top.subtree) : p ∈ t.places :=
  Place.subtree_subset ht.numbered.2 hp

/-- A child of a place in the export root is not the export root. -/
lemma Loaded.id_ne_top (ht : t.Loaded) (hp : p ∈ t.top.subtree) (hc : c ∈ p.children) :
    c.id ≠ t.top.id := by
  have hcp := (Place.inside_iff ht.numbered_top (Place.children_mem_subtree hp hc) hp).1
    ⟨c, hc, c.mem_subtree_self⟩
  have hids : p.id ∈ t.top.subtree.map Place.id := List.mem_map_of_mem hp
  rw [Place.ids_subtree ht.numbered_top, List.mem_range'_1] at hids
  omega

/-- The names on the way up from a place to the export root lead down to it again. -/
theorem Loaded.names_lead_back (ht : t.Loaded) (hnamed : t.ProperlyNamed)
    (hp : p ∈ t.top.subtree) : ∃ names : List String,
      (Place.namesUpTo t.top.id (p.node :: p.above)).reverse = t.top.node.instName :: names ∧
        (∀ name ∈ names, '.' ∉ name.toList) ∧ t.top.descend names = some p := by
  induction p, hp using Place.subtree_induction with
  | top => exact ⟨[], by rw [Place.namesUpTo_self, List.reverse_singleton], nofun, rfl⟩
  | child p hp ih c hc =>
    obtain ⟨names, hup, hdots, hdown⟩ := ih
    refine ⟨names ++ [c.node.instName], ?_, ?_, ?_⟩
    · rw [Place.namesUpTo_child hc (ht.id_ne_top hp hc), List.reverse_cons, hup, List.cons_append]
    · intro name hname
      rcases List.mem_append.1 hname with hname | hname
      · exact hdots name hname
      · rw [List.mem_singleton.1 hname]
        exact hnamed.no_dot c (ht.mem_places (Place.children_mem_subtree hp hc))
    · rw [Place.descend_concat, hdown, Option.bind_some,
        Place.find?_children (hnamed.siblings p (ht.mem_places hp)) hc]

/-- A place in the export root is found at its path. -/
theorem Loaded.find?_path (ht : t.Loaded) (hnamed : t.ProperlyNamed) (hp : p ∈ t.top.subtree) :
    t.find? (t.path p) = some p := by
  obtain ⟨names, hup, hdots, hdown⟩ := ht.names_lead_back hnamed hp
  have hall : ∀ name ∈ t.top.node.instName :: names, '.' ∉ name.toList := by
    intro name hname
    rcases List.mem_cons.1 hname with rfl | hname
    · exact hnamed.no_dot t.top (ht.mem_places t.top.mem_subtree_self)
    · exact hdots name hname
  -- the root of the whole tree may have the name too, but comes second
  have hstart : ([t.top, ⟨[], t.root⟩].find? fun q => q.node.instName == t.top.node.instName) =
      some t.top := List.find?_cons_of_pos (beq_self_eq_true _)
  rw [find?, path, hup, splitOn_intercalate_dot (List.cons_ne_nil _ _) hall]
  simp only [hstart]
  exact hdown

/-- Places in the export root have different paths. -/
theorem Loaded.nodup_paths (ht : t.Loaded) (hnamed : t.ProperlyNamed) :
    (t.top.subtree.map t.path).Nodup := by
  refine List.Nodup.map_on ?_ (List.Nodup.of_map Place.id ht.distinct_top)
  intro p hp q hq hpath
  have hfound := ht.find?_path hnamed hp
  rw [hpath, ht.find?_path hnamed hq] at hfound
  exact (Option.some.inj hfound).symm

/-! ## Moving the export root -/

/-- Makes what was found at a path the export root of the tree at hand. -/
def settle (path : String) : Option Place → ExceptT TreeFault (StateM RegisterTree) Unit
  | none => throw (.notFound path)
  | some p => do
    if p.node.kind ≠ .addressMap then
      throw (.rootNotAddressMap p.node.kind)
    modify fun t => { t with top := p }

/-- The selection, made in place: the tree at hand is searched, and of it only the export root is
set. -/
def chooseTop (path : String) : ExceptT TreeFault (StateM RegisterTree) Unit := do
  settle path ((← get).find? path)

/-- Selections one after another, whether the earlier ones are refused or not. -/
def chooseTops (paths : List String) : StateM RegisterTree (List (Except TreeFault Unit)) :=
  paths.mapM fun path => (chooseTop path).run

/-- A selection sets the export root, or does nothing and gives the reason. -/
lemma run_chooseTop (t : RegisterTree) (path : String) :
    (chooseTop path).run.run t =
      match t.selectTop path with
      | .ok t' => (.ok (), t')
      | .error e => (.error e, t) := by
  have hrun : (chooseTop path).run.run t = (settle path (t.find? path)).run.run t := rfl
  rw [hrun, selectTop]
  cases t.find? path with
  | none => rfl
  | some p =>
    by_cases hkind : p.node.kind = .addressMap
    · rw [settle, if_neg (not_not_intro hkind)]
      dsimp only
      rw [if_pos hkind]
      rfl
    · rw [settle, if_pos hkind]
      dsimp only
      rw [if_neg hkind]
      rfl

/-- A refused selection leaves the tree as it is. -/
lemma snd_run_chooseTop_of_error {path : String} {e : TreeFault}
    (h : ((chooseTop path).run.run t).1 = .error e) : ((chooseTop path).run.run t).2 = t := by
  rw [run_chooseTop] at h ⊢
  cases hselect : t.selectTop path with
  | ok t' => rw [hselect] at h; cases h
  | error e => rfl

/-- A selection moves the export root of a loaded tree and changes nothing else. -/
lemma Loaded.run_chooseTop (ht : t.Loaded) (path : String) :
    ((chooseTop path).run.run t).2.Loaded ∧ ((chooseTop path).run.run t).2.root = t.root := by
  rw [RegisterTree.run_chooseTop]
  cases hselect : t.selectTop path with
  | ok t' =>
    obtain ⟨p, -, -, rfl⟩ := selectTop_eq_ok hselect
    exact ⟨ht.select hselect, rfl⟩
  | error e => exact ⟨ht, rfl⟩

lemma run_chooseTops_cons (t : RegisterTree) (path : String) (rest : List String) :
    (chooseTops (path :: rest)).run t =
      (((chooseTop path).run.run t).1 ::
          ((chooseTops rest).run ((chooseTop path).run.run t).2).1,
        ((chooseTops rest).run ((chooseTop path).run.run t).2).2) := by
  unfold chooseTops
  rw [List.mapM_cons]
  rfl

theorem Loaded.run_chooseTops (ht : t.Loaded) (paths : List String) :
    ((chooseTops paths).run t).2.Loaded ∧ ((chooseTops paths).run t).2.root = t.root := by
  induction paths generalizing t with
  | nil => exact ⟨ht, rfl⟩
  | cons path rest ih =>
    obtain ⟨hloaded, hroot⟩ := ht.run_chooseTop path
    obtain ⟨hloaded', hroot'⟩ := ih hloaded
    rw [run_chooseTops_cons]
    exact ⟨hloaded', hroot'.trans hroot⟩

/-- Every address map in the export root can be chosen, by its path. -/
lemma Loaded.selectTop_path (ht : t.Loaded) (hnamed : t.ProperlyNamed) (hp : p ∈ t.top.subtree)
    (hkind : p.node.kind = .addressMap) : t.selectTop (t.path p) = .ok { t with top := p } := by
  rw [selectTop, ht.find?_path hnamed hp]
  exact if_pos hkind

lemma ProperlyNamed.of_root_eq (h : t.ProperlyNamed) (hroot : t'.root = t.root) :
    t'.ProperlyNamed := by
  have hplaces : t'.places = t.places := congrArg (Place.preorder []) hroot
  exact ⟨hplaces ▸ h.siblings, hplaces ▸ h.no_dot⟩

/-- **Looking up a path gives the place whose path it is.**  This holds for every place in the export
root of a loaded tree with proper names, whichever address maps were tried as export roots before,
and whether they were refused or not; so these places have different paths, and every address map
among them can be chosen by its path.  A selection that is refused leaves the tree as it is. -/
theorem lookup_inverts_path {t : RegisterTree} (ht : t.Loaded) (hnamed : t.ProperlyNamed)
    (tried : List String) :
    let s := ((chooseTops tried).run t).2
    s.root = t.root ∧
    (∀ p ∈ s.top.subtree, s.find? (s.path p) = some p) ∧
    (s.top.subtree.map s.path).Nodup ∧
    (∀ p ∈ s.top.subtree, p.node.kind = .addressMap →
      (chooseTop (s.path p)).run.run s = (.ok (), { s with top := p })) ∧
    ∀ path e, ((chooseTop path).run.run s).1 = .error e → ((chooseTop path).run.run s).2 = s := by
  intro s
  obtain ⟨hs, hroot⟩ := ht.run_chooseTops tried
  have hproper : s.ProperlyNamed := hnamed.of_root_eq hroot
  refine ⟨hroot, fun p hp => hs.find?_path hproper hp, hs.nodup_paths hproper,
    fun p hp hkind => ?_, fun path e => snd_run_chooseTop_of_error⟩
  rw [RegisterTree.run_chooseTop, hs.selectTop_path hproper hp hkind]

/-- A map with a register and a second map, which has the name of the first, as everything in it
has. -/
def nestedMaps : Description :=
  .group .addressMap "top" 0 [
    .register "ctrl" 0 [.resetField "on" 0 0 0],
    .group .addressMap "top" 0x100 [
      .register "top" 0 [.resetField "top" 0 0 0]]]

/-- The register is refused as the export root, the inner map is taken by the same name that the
outer one has, and in it all is found. -/
theorem lookup_in_nested_maps :
    nestedMaps.tree.Loaded ∧ nestedMaps.tree.ProperlyNamed ∧
      let s := { nestedMaps.tree with top := nestedMaps.tree.top.part 1 }
      (chooseTops ["top.ctrl", "top.top"]).run nestedMaps.tree =
        ([.error (.rootNotAddressMap .register), .ok ()], s) ∧
      s.top.subtree.map s.path = ["top", "top.top", "top.top.top"] ∧
      ∀ p ∈ s.top.subtree, s.find? (s.path p) = some p := by
  have ht : nestedMaps.tree.Loaded := Description.loaded_tree (by decide +kernel)
  have hnamed : nestedMaps.tree.ProperlyNamed := ⟨by decide +kernel, by decide +kernel⟩
  have hpart (i : ℕ) : nestedMaps.tree.top.part i ∈ nestedMaps.tree.top.subtree :=
    Place.part_mem_subtree (Place.mem_subtree_self _) i
  obtain ⟨-, hfound, -, hchosen, -⟩ := lookup_inverts_path ht hnamed []
  have hctrl : (chooseTop "top.ctrl").run.run nestedMaps.tree =
      (.error (.rootNotAddressMap .register), nestedMaps.tree) := by
    have hfind : nestedMaps.tree.find? "top.ctrl" = some (nestedMaps.tree.top.part 0) :=
      hfound _ (hpart 0)
    rw [run_chooseTop, selectTop, hfind]
    rfl
  have hinner : (chooseTop "top.top").run.run nestedMaps.tree =
      (.ok (), { nestedMaps.tree with top := nestedMaps.tree.top.part 1 }) :=
    hchosen _ (hpart 1) (by decide +kernel)
  have hrun : (chooseTops ["top.ctrl", "top.top"]).run nestedMaps.tree =
      ([.error (.rootNotAddressMap .register), .ok ()],
        { nestedMaps.tree with top := nestedMaps.tree.top.part 1 }) := by
    rw [run_chooseTops_cons, run_chooseTops_cons, hctrl, hinner]
    rfl
  have hlaw := (lookup_inverts_path ht hnamed ["top.ctrl", "top.top"]).2.1
  rw [hrun] at hlaw
  exact ⟨ht, hnamed, hrun, by decide +kernel, hlaw⟩

end RegisterTree

end RegisterMap
