import Mathlib
import RegisterMap.Proofs.Results
import RegisterMap.Proofs.Tree.Order
import RegisterMap.Proofs.Tree.Sizes

/-!
# What is in the nodes of a loaded tree

The loader checks every node against its parent: the parent may hold nodes of the kind, and the
attributes are those that the kind needs (`Node.Checked`).  Two consequences are used time and
again.  Nothing is in a field, so hashes may leave out what would be; and the position of a field
was made of its two ends, so the ends tell its position (`Loaded.eq_of_ends`).
-/

namespace RegisterMap

/-! ## One node -/

namespace Attributes

variable {path : String} {register : Option RegisterDetail} {a : Attributes} {c : Component}

lemma toDetail_of_toComponent (h : a.toComponent path register = .ok c) :
    a.toDetail path register = .ok c.detail := by
  have hfinish : (a.toDetail path register >>= fun detail => pure ⟨a.instName, a.typeName,
      a.scopePath, a.name, a.desc, a.offset, a.array, a.properties, detail⟩) = .ok c := by
    unfold toComponent at h
    split at h
    · exact (bind_eq_ok.1 h).choose_spec.2
    · exact h
  obtain ⟨detail, hdetail, hc⟩ := bind_eq_ok.1 hfinish
  rw [← Except.ok.inj hc]
  exact hdetail

/-- The kind of an accepted node is the one that its attributes name. -/
lemma kind_of_toComponent (h : a.toComponent path register = .ok c) : c.kind = a.kind := by
  have hdetail := toDetail_of_toComponent h
  unfold toDetail at hdetail
  unfold Component.kind
  cases hkind : a.kind <;> rw [hkind] at hdetail
  case addressMap | registerFile | signal => rw [← Except.ok.inj hdetail]; rfl
  all_goals
    obtain ⟨_, -, heq⟩ := map_eq_ok.1 hdetail
    rw [← heq]
    rfl

/-- A component that is a register passed the checks of a register. -/
lemma toRegister_of_toComponent {r : RegisterDetail} (h : a.toComponent path register = .ok c)
    (hr : c.detail = .register r) : a.toRegister path = .ok r := by
  have hkind : a.kind = .register := by
    rw [← kind_of_toComponent h, Component.kind, hr]
    rfl
  have hdetail := toDetail_of_toComponent h
  rw [toDetail, hkind, hr] at hdetail
  obtain ⟨r', hregister, heq⟩ := map_eq_ok.1 hdetail
  cases heq
  exact hregister

/-- A component that is a field passed the checks of a field. -/
lemma toField_of_toComponent {f : FieldDetail} (h : a.toComponent path register = .ok c)
    (hf : c.detail = .field f) : a.toField path register = .ok f := by
  have hkind : a.kind = .field := by
    rw [← kind_of_toComponent h, Component.kind, hf]
    rfl
  have hdetail := toDetail_of_toComponent h
  rw [toDetail, hkind, hf] at hdetail
  obtain ⟨g, hfield, heq⟩ := map_eq_ok.1 hdetail
  cases heq
  exact hfield

/-- The position of an accepted field was made of its ends. -/
lemma geometry_of_toComponent {f : FieldDetail} (h : a.toComponent path register = .ok c)
    (hf : c.detail = .field f) : ∃ msb lsb, Geometry.ofMsbLsb msb lsb = .ok f.geometry :=
  (geometry_of_toField (toField_of_toComponent h hf)).1

end Attributes

namespace Node

/-- A node as the loader accepts it in a parent. -/
def HeldBy (parent : Component) (n : Node) : Prop :=
  parent.kind.mayContain n.kind = true ∧
    ∃ path a, Attributes.toComponent path parent.detail.register? a = .ok n.component

/-- Everything in the node is as the loader accepts it in its parent. -/
inductive Checked : Node → Prop
  | mk {id : ℕ} {c : Component} {cs : List Node} (held : ∀ n ∈ cs, n.HeldBy c)
      (inner : ∀ n ∈ cs, Checked n) : Checked (.mk id c cs)

variable {n m : Node}

lemma Checked.heldBy (hn : n.Checked) (hm : m ∈ n.children) : m.HeldBy n.component := by
  cases hn with
  | mk held _ => exact held m hm

lemma Checked.child (hn : n.Checked) (hm : m ∈ n.children) : m.Checked := by
  cases hn with
  | mk _ inner => exact inner m hm

mutual

theorem checked_ofDescription {above : String} {register : Option RegisterDetail} {id : ℕ} :
    ∀ {d : Description} {n : Node}, ofDescription above register id d = .ok n →
      n.Checked ∧ n.kind = d.attributes.kind ∧
        ∃ path a, Attributes.toComponent path register a = .ok n.component
  | .mk a ds, n, h => by
    obtain ⟨component, nodes, hcomponent, hnodes, -, rfl⟩ := ofDescription_eq_ok h
    have hin := checked_ofDescriptions hnodes
    exact ⟨.mk (fun n hn => (hin n hn).1) fun n hn => (hin n hn).2,
      Attributes.kind_of_toComponent hcomponent, _, a, hcomponent⟩

theorem checked_ofDescriptions {path : String} {parent : Component} {id : ℕ} :
    ∀ {ds : List Description} {ns : List Node}, ofDescriptions path parent.detail id ds = .ok ns →
      ∀ n ∈ ns, n.HeldBy parent ∧ n.Checked
  | [], ns, h => by
    cases h
    simp
  | d :: rest, ns, h => by
    obtain ⟨hkind, n, nodes, hn, hnodes, rfl⟩ := ofDescriptions_cons_eq_ok h
    obtain ⟨hchecked, hkindn, hcomponent⟩ := checked_ofDescription hn
    intro m hm
    rcases List.mem_cons.1 hm with rfl | hm
    · exact ⟨⟨by rw [hkindn]; exact hkind, hcomponent⟩, hchecked⟩
    · exact checked_ofDescriptions hnodes m hm

end

end Node

namespace RegisterTree

variable {t : RegisterTree} {p c : Place}

/-- Everything in a loaded tree was checked. -/
theorem Loaded.checked (ht : t.Loaded) : t.root.Checked := by
  obtain ⟨d, -, hroot⟩ := ht.exists_description
  exact (Node.checked_ofDescription hroot).1

lemma Loaded.checked_place (ht : t.Loaded) (hp : p ∈ t.top.subtree) : p.node.Checked :=
  Place.of_mem_subtree (fun _ _ hn hm => hn.child hm) ht.checked
    (Place.subtree_subset ht.numbered.2 hp)

/-- A parent may hold what it holds. -/
lemma Loaded.mayContain (ht : t.Loaded) (hp : p ∈ t.top.subtree) (hc : c ∈ p.children) :
    p.node.kind.mayContain c.node.kind = true := by
  obtain ⟨n, hn, rfl⟩ := List.mem_map.1 hc
  exact ((ht.checked_place hp).heldBy hn).1

/-- The export root of a loaded tree is an address map. -/
lemma Loaded.kind_top (ht : t.Loaded) :
    t.top.node.kind = .addressMap := by
  cases ht with
  | whole h =>
    obtain ⟨hkind, root, hroot, rfl⟩ := ofDescription_eq_ok_iff.1 h
    exact (Node.checked_ofDescription hroot).2.1.trans hkind
  | select _ h =>
    obtain ⟨p, -, hkind, rfl⟩ := selectTop_eq_ok h
    exact hkind

/-- Nothing is in a field. -/
lemma Loaded.children_field (ht : t.Loaded) (hp : p ∈ t.top.subtree)
    (hfield : p.node.kind = .field) : p.children = [] := by
  refine List.eq_nil_iff_forall_not_mem.2 fun c hc => ?_
  have hcontain := ht.mayContain hp hc
  rw [hfield] at hcontain
  cases hkind : c.node.kind <;> rw [hkind] at hcontain <;> cases hcontain

end RegisterTree

/-! ## Positions of fields -/

namespace Geometry

/-- Positions that were made of their ends are the same when their ends are. -/
lemma eq_of_ends {g g' : Geometry} {msb lsb msb' lsb' : ℕ} (hg : ofMsbLsb msb lsb = .ok g)
    (hg' : ofMsbLsb msb' lsb' = .ok g') (hmsb : g.msb = g'.msb) (hlsb : g.lsb = g'.lsb) :
    g = g' := by
  obtain ⟨rfl, rfl⟩ := ends_of_ofMsbLsb hg
  obtain ⟨rfl, rfl⟩ := ends_of_ofMsbLsb hg'
  rw [hmsb, hlsb, hg'] at hg
  exact (Except.ok.inj hg).symm

end Geometry

namespace RegisterTree

variable {t : RegisterTree} {p q c d : Place}

/-- Fields in two nodes of a loaded tree have one position when they have the same ends. -/
theorem Loaded.eq_of_ends (ht : t.Loaded) (hp : p ∈ t.top.subtree) (hq : q ∈ t.top.subtree)
    (hc : c ∈ p.children) (hd : d ∈ q.children) {f g : FieldDetail}
    (hf : c.node.detail = .field f) (hg : d.node.detail = .field g)
    (hmsb : f.geometry.msb = g.geometry.msb) (hlsb : f.geometry.lsb = g.geometry.lsb) :
    f.geometry = g.geometry := by
  obtain ⟨n, hn, rfl⟩ := List.mem_map.1 hc
  obtain ⟨m, hm, rfl⟩ := List.mem_map.1 hd
  obtain ⟨-, path, a, hcomponent⟩ := (ht.checked_place hp).heldBy hn
  obtain ⟨-, path', a', hcomponent'⟩ := (ht.checked_place hq).heldBy hm
  obtain ⟨msb, lsb, hmade⟩ := Attributes.geometry_of_toComponent hcomponent hf
  obtain ⟨msb', lsb', hmade'⟩ := Attributes.geometry_of_toComponent hcomponent' hg
  exact Geometry.eq_of_ends hmade hmade' hmsb hlsb

end RegisterTree

end RegisterMap
