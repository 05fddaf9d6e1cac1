import Mathlib
import RegisterMap.Proofs.Tree.Acceptance

/-!
# Registers of a loaded tree

Every node of a loaded tree was accepted by the loader with all that is in it (`Loaded.accepted`).
For a register this means that it is made of whole words, that its fields lie in it and share no
bit, and that the reset value of a field fits the field (`Loaded.holdsFields`).
-/

namespace RegisterMap

/-! ## Accepted nodes -/

namespace Node

/-- The loader made the node of some description. -/
def Accepted (n : Node) : Prop :=
  ∃ above register id d, ofDescription above register id d = .ok n

lemma accepted_of_mem {path : String} {parent : Detail} {id : ℕ} {ds : List Description}
    {ns : List Node} (h : ofDescriptions path parent id ds = .ok ns) :
    ∀ n ∈ ns, n.Accepted := by
  induction ds generalizing id ns with
  | nil =>
    cases h
    nofun
  | cons d rest ih =>
    obtain ⟨-, n, nodes, hn, hnodes, rfl⟩ := ofDescriptions_cons_eq_ok h
    exact List.forall_mem_cons.2 ⟨⟨_, _, _, d, hn⟩, ih hnodes⟩

lemma Accepted.child {n m : Node} (hn : n.Accepted) (hm : m ∈ n.children) : m.Accepted := by
  obtain ⟨above, register, id, ⟨a, ds⟩, h⟩ := hn
  obtain ⟨component, nodes, -, hnodes, -, rfl⟩ := ofDescription_eq_ok h
  exact accepted_of_mem hnodes m hm

end Node

namespace RegisterTree

variable {t : RegisterTree} {p : Place}

/-- Everything in a loaded tree was accepted. -/
theorem Loaded.accepted (ht : t.Loaded) (hp : p ∈ t.top.subtree) : p.node.Accepted := by
  obtain ⟨d, -, hroot⟩ := ht.exists_description
  exact Place.of_mem_subtree (fun _ _ hn hm => hn.child hm) ⟨_, _, _, d, hroot⟩
    (Place.subtree_subset ht.numbered.2 hp)

end RegisterTree

/-! ## Registers -/

/-- The fields fit the register and leave one another alone, and their reset values fit them. -/
structure RegisterDetail.HoldsFields (r : RegisterDetail) (fields : List FieldDetail) : Prop where
  sizes : r.Admitted
  within : ∀ f ∈ fields, f.geometry.Within r.width
  apart : fields.Pairwise fun f g => f.geometry.Apart g.geometry
  reset_le : ∀ f ∈ fields, ∀ value, f.reset = some value → value ≤ f.geometry.maxValue

lemma wordMask_le_valueMask (width : ℕ) : wordMask width ≤ valueMask width := by
  have hpow : 2 ^ min width maxWordWidth ≤ 2 ^ min width maxValueWidth :=
    Nat.pow_le_pow_right (by decide) (by simp only [maxWordWidth, maxValueWidth]; omega)
  simp only [wordMask, valueMask, valueCount, Nat.pow_eq]
  omega

/-- The reset value of an accepted field fits the field. -/
lemma Attributes.reset_le_of_toField {path : String} {register : Option RegisterDetail}
    {a : Attributes} {f : FieldDetail} (h : a.toField path register = .ok f) {value : ℕ}
    (hvalue : f.reset = some value) : value ≤ f.geometry.maxValue := by
  obtain ⟨msb, lsb, g, -, -, -, -, hreset, -, rfl⟩ := toField_eq_ok_iff.1 h
  exact (hreset value hvalue).trans (wordMask_le_valueMask _)

/-- A register of a loaded tree holds its fields. -/
theorem RegisterTree.Loaded.holdsFields {t : RegisterTree} {p : Place} {r : RegisterDetail}
    (ht : t.Loaded) (hp : p ∈ t.top.subtree) (hr : p.node.detail = .register r) :
    r.HoldsFields p.node.fields := by
  obtain ⟨above, register, id, ⟨a, ds⟩, h⟩ := ht.accepted hp
  obtain ⟨component, nodes, hcomponent, hnodes, hchecked, hnode⟩ := Node.ofDescription_eq_ok h
  have hdetail : component.detail = .register r := by
    rw [← hr, hnode]
    rfl
  have hregister : component.detail.register? = some r := by rw [hdetail]; rfl
  have hkind : a.kind = .register := Attributes.kind_of_register? hcomponent hregister
  have hsizes : r.Admitted :=
    Attributes.admitted_of_toRegister (Attributes.toRegister_of_toComponent hcomponent hdetail)
  have hforall := Node.forall₂_ofDescriptions hnodes
  rw [hregister] at hforall
  obtain ⟨-, haccepted⟩ := Node.fieldsAmong_of_forall₂ hforall
  have hwithin : ∀ f ∈ Node.fieldsAmong nodes, f.geometry.Within r.width := by
    intro f hf
    obtain ⟨_, _, hfield⟩ := haccepted f hf
    exact Attributes.within_of_toField hfield
  have hapart := ((checkFields_eq_ok_iff hwithin hsizes.width_le).1 (hchecked hkind)).2
  have hfields : p.node.fields = Node.fieldsAmong nodes := by
    rw [hnode]
    rfl
  rw [hfields]
  refine ⟨hsizes, hwithin, List.pairwise_map.1 hapart, fun f hf value hvalue => ?_⟩
  obtain ⟨_, _, hfield⟩ := haccepted f hf
  exact Attributes.reset_le_of_toField hfield hvalue

end RegisterMap
