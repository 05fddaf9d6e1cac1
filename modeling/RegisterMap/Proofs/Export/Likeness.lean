import Mathlib
import RegisterMap.Proofs.Export.Decided
import RegisterMap.Proofs.Export.Sharing
import RegisterMap.Proofs.Tree.Contents

/-!
# Nodes that share a type are alike

The hash of a node is taken of one flat list: the kind, optional pairs, the attributes of the kind,
what every shown child contributes, and the name of the definition.  The kind decides how many
attributes there are, so the list is read back in one way (`nodeInput_inj`).  As long as no two
inputs with different bytes have one digest, equal hashes mean equal contributions, and those hold
the hashes of the children in turn.  So nodes with one hash are alike all the way down
(`alike_of_sharesType`).
-/

namespace RegisterMap

lemma NodeKind.tag_injective : Function.Injective NodeKind.tag := by
  intro k k' h
  cases k <;> cases k' <;> first | rfl | exact absurd h (by decide)

/-! ## Hash inputs -/

namespace Hasher

variable {h : Hasher} {c c' : Component} {ns ns' : List Node}

/-- The input of the placed hash of a node with some type hash. -/
def placedInput (c : Component) (type : TypeHash) : HashItem :=
  .list ([type.item, .text c.instName, .nat c.offset] ++
    (c.array.map fun a => .list [.nat a.stride, .list (a.dimensions.map .nat)]).toList)

lemma array_eq_of_item {a a' : Option ArrayShape}
    (heq : (a.map fun s => HashItem.list [.nat s.stride, .list (s.dimensions.map .nat)]).toList =
      (a'.map fun s => HashItem.list [.nat s.stride, .list (s.dimensions.map .nat)]).toList) :
    a = a' := by
  cases a with
  | none =>
    cases a' with
    | none => rfl
    | some shape' => cases heq
  | some shape =>
    cases a' with
    | none => cases heq
    | some shape' =>
      simp only [Option.map_some, Option.toList_some, List.cons.injEq, HashItem.list.injEq,
        and_true] at heq
      obtain ⟨hstride, hdimensions⟩ := heq
      have hdimensions : shape.dimensions = shape'.dimensions :=
        List.map_injective_iff.2 HashItem.nat_injective hdimensions
      obtain ⟨dimensions, stride⟩ := shape
      obtain ⟨dimensions', stride'⟩ := shape'
      cases hdimensions
      cases HashItem.nat_injective hstride
      rfl

/-- The input of a placed hash tells the type and the position. -/
lemma placedInput_inj {type type' : TypeHash} (heq : placedInput c type = placedInput c' type') :
    type = type' ∧ c.instName = c'.instName ∧ c.offset = c'.offset ∧ c.array = c'.array := by
  simp only [placedInput, HashItem.list.injEq, List.cons_append, List.nil_append, List.cons.injEq,
    HashItem.text.injEq] at heq
  obtain ⟨htype, hname, hoffset, harray⟩ := heq
  exact ⟨TypeHash.item_injective htype, hname, HashItem.nat_injective hoffset,
    array_eq_of_item harray⟩

/-- Every input begins with the kind. -/
lemma kind_eq_of_input {rest rest' : List HashItem}
    (heq : h.commonItems c ++ rest = h.commonItems c' ++ rest') : c.kind = c'.kind := by
  obtain ⟨pairs, hc, -⟩ := h.commonItems_eq c
  obtain ⟨pairs', hc', -⟩ := h.commonItems_eq c'
  rw [hc, hc'] at heq
  exact NodeKind.tag_injective (HashItem.text.inj (List.cons.inj heq).1)

/-- The attributes of a kind begin with a truth value. -/
lemma ownItems_eq_cons (c : Component) (ns : List Node) :
    ∃ b rest, ownItems c ns = .flag b :: rest := by
  unfold ownItems
  split
  · exact ⟨_, _, rfl⟩
  · exact ⟨_, _, rfl⟩
  · exact ⟨_, _, rfl⟩

/-- The kind decides how many attributes there are. -/
lemma length_ownItems (hkind : c.kind = c'.kind) :
    (ownItems c ns).length = (ownItems c' ns').length := by
  unfold Component.kind at hkind
  unfold ownItems
  cases hc : c.detail <;> cases hc' : c'.detail <;> rw [hc, hc'] at hkind <;>
    first | rfl | cases hkind

/-- The attributes of nodes other than fields tell what the node is. -/
lemma detail_eq_of_ownItems (hkind : c.kind = c'.kind) (hfield : c.kind ≠ .field)
    (heq : ownItems c ns = ownItems c' ns') : c.detail = c'.detail := by
  unfold Component.kind at hkind hfield
  unfold ownItems at heq
  cases hc : c.detail <;> cases hc' : c'.detail <;> rw [hc, hc'] at hkind heq <;>
    first | rfl | cases hkind
  case register.register r r' =>
    simp only [registerItems, List.cons_append, List.nil_append, List.cons.injEq] at heq
    obtain ⟨-, -, haccess, hwidth, -⟩ := heq
    obtain ⟨width, accessWidth⟩ := r
    obtain ⟨width', accessWidth'⟩ := r'
    cases HashItem.nat_injective haccess
    cases HashItem.nat_injective hwidth
    rfl
  case field.field f f' =>
    rw [hc] at hfield
    exact absurd rfl hfield
  case memory.memory m m' =>
    simp only [memoryItems, List.cons_append, List.nil_append, List.cons.injEq,
      HashItem.flag.injEq] at heq
    obtain ⟨hreadable, hwritable, hentries, hwidth, haccess, -⟩ := heq
    have hflags : some m.access = some m'.access := by
      rw [← Access.ofFlags_readable_writable m.access, hreadable, hwritable,
        Access.ofFlags_readable_writable]
    obtain ⟨entries, width, accessWidth, access⟩ := m
    obtain ⟨entries', width', accessWidth', access'⟩ := m'
    cases HashItem.nat_injective hentries
    cases HashItem.nat_injective hwidth
    cases HashItem.nat_injective haccess
    cases hflags
    rfl

/-- The input of a node that is no field is read back in one way. -/
theorem nodeInput_inj {items items' : List HashItem} (hfield : c.kind ≠ .field)
    (heq : h.nodeInput c ns items = h.nodeInput c' ns' items') :
    c.detail = c'.detail ∧ items = items' := by
  unfold nodeInput at heq
  rw [HashItem.list.injEq] at heq
  simp only [List.append_assoc] at heq
  have hkind := kind_eq_of_input heq
  obtain ⟨b, own, hown⟩ := ownItems_eq_cons c ns
  obtain ⟨b', own', hown'⟩ := ownItems_eq_cons c' ns'
  have hlength : (ownItems c ns).length = (ownItems c' ns').length := length_ownItems hkind
  rw [hown, hown', List.cons_append, List.cons_append] at heq
  obtain ⟨-, hflag, hrest⟩ := commonItems_append_inj (HashItem.not_isList_flag _)
    (HashItem.not_isList_flag _) heq
  rw [hown, hown', List.length_cons, List.length_cons, Nat.add_right_cancel_iff] at hlength
  obtain ⟨hattributes, hitems⟩ := List.append_inj hrest hlength
  have hownItems : ownItems c ns = ownItems c' ns' := by
    rw [hown, hown', hflag, hattributes]
  exact ⟨detail_eq_of_ownItems hkind hfield hownItems, (List.append_inj' hitems rfl).1⟩

end Hasher

/-! ## What is hashed -/

namespace Screen

variable (hidden : Screen) (h : Hasher) (t : RegisterTree)

/-- The input of the type hash of a place, unless the place is a plain field. -/
def input (p : Place) : Option HashItem :=
  match p.node.detail with
  | .field f =>
    if h.fieldType p.node.component f = .plain then none else some (h.fieldInput p.node.component f)
  | _ => (hidden.items h t p).toOption.map
      (h.nodeInput p.node.component ((hidden.accessors p).map (·.1.node)))

/-- All that is hashed at a place: the input of its type hash, the enumeration of a field, and the
placed hashes of what is shown in an array, a group or a memory. -/
def inputs (p : Place) : List HashItem :=
  (hidden.input h t p).toList ++
    (p.node.detail.field?.bind fun f => f.encoding.map Hasher.encodingItem).toList ++
    if p.node.kind = .register then []
    else (hidden.visibleChildren p).filterMap fun c =>
      (hidden.typeHash h t c).toOption.map (Hasher.placedInput c.node.component)

/-- All that is hashed for a place and what is shown in it. -/
def hashed (p : Place) : List HashItem := (hidden.places p).flatMap (hidden.inputs h t)

variable {hidden h t} {p q c : Place} {inputs : List HashItem} {v : ℤ} {type : TypeHash}

lemma inputs_subset_hashed (hc : c ∈ hidden.places p) :
    hidden.inputs h t c ⊆ hidden.hashed h t p :=
  fun _ ha => List.mem_flatMap.2 ⟨c, hc, ha⟩

lemma hashed_subset_hashed (hc : c ∈ hidden.places p) :
    hidden.hashed h t c ⊆ hidden.hashed h t p := by
  intro a ha
  obtain ⟨d, hd, ha⟩ := List.mem_flatMap.1 ha
  exact inputs_subset_hashed (places_subset_places hc hd) ha

lemma input_mem_inputs {a : HashItem} (ha : hidden.input h t p = some a) :
    a ∈ hidden.inputs h t p := by
  simp [Screen.inputs, ha]

lemma input_field {f : FieldDetail} (hf : p.node.detail = .field f) : hidden.input h t p =
    if h.fieldType p.node.component f = .plain then none
    else some (h.fieldInput p.node.component f) := by
  rw [input, hf]

lemma input_node (hfield : p.node.kind ≠ .field) : hidden.input h t p =
    (hidden.items h t p).toOption.map
      (h.nodeInput p.node.component ((hidden.accessors p).map (·.1.node))) := by
  unfold input
  split
  · next f hf => exact absurd (congrArg Detail.kind hf) hfield
  · rfl

/-- Nothing is shown in a field. -/
lemma accessors_field (ht : t.Loaded) (hp : p ∈ t.top.subtree) (hkind : p.node.kind = .field) :
    hidden.accessors p = [] := by
  simp only [accessors, visibleChildren, ht.children_field hp hkind, List.filter_nil,
    List.zip_nil_left]

lemma exists_field (hkind : p.node.kind = .field) : ∃ f, p.node.detail = .field f := by
  unfold Node.kind Component.kind at hkind
  unfold Node.detail
  cases hdetail : p.node.component.detail with
  | field f => exact ⟨f, rfl⟩
  | _ => rw [hdetail] at hkind; cases hkind

/-- A hash is the digest of the input of its place. -/
theorem exists_input (htype : hidden.typeHash h t p = .ok (.hash v)) :
    ∃ a, hidden.input h t p = some a ∧ h.digest a = v := by
  by_cases hfield : p.node.kind = .field
  · obtain ⟨f, hf⟩ := exists_field hfield
    rw [typeHash_field hf] at htype
    have hhash : h.fieldType p.node.component f = .hash v := Except.ok.inj htype
    rw [input_field hf, hhash, if_neg nofun]
    unfold Hasher.fieldType at hhash
    split at hhash
    · cases hhash
    · exact ⟨_, rfl, TypeHash.hash.inj hhash⟩
  · obtain ⟨-, items, hitems, hhash⟩ := typeHash_eq_ok hfield htype
    rw [input_node hfield, hitems]
    exact ⟨_, rfl, (TypeHash.hash.inj hhash).symm⟩

/-- Only fields are plain. -/
lemma field_of_plain (htype : hidden.typeHash h t p = .ok .plain) : p.node.kind = .field := by
  by_contra hfield
  obtain ⟨-, items, -, hhash⟩ := typeHash_eq_ok hfield htype
  cases hhash

/-- Every input begins with the kind of its place. -/
lemma input_eq_common {a : HashItem} (ha : hidden.input h t p = some a) :
    ∃ rest, a = .list (h.commonItems p.node.component ++ rest) := by
  by_cases hfield : p.node.kind = .field
  · obtain ⟨f, hf⟩ := exists_field hfield
    rw [input_field hf] at ha
    split at ha
    · cases ha
    · rw [← Option.some.inj ha, Hasher.fieldInput, List.append_assoc]
      exact ⟨_, rfl⟩
  · rw [input_node hfield] at ha
    obtain ⟨items, -, rfl⟩ := Option.map_eq_some_iff.1 ha
    rw [Hasher.nodeInput, List.append_assoc, List.append_assoc]
    exact ⟨_, rfl⟩

/-! ## Shared types -/

/-- The places have one type. -/
def SharesType (hidden : Screen) (h : Hasher) (t : RegisterTree) (p q : Place) : Prop :=
  ∃ type, hidden.typeHash h t p = .ok type ∧ hidden.typeHash h t q = .ok type

variable (hfree : h.CollisionFree inputs) (hp : hidden.inputs h t p ⊆ inputs)
  (hq : hidden.inputs h t q ⊆ inputs)

include hfree hp hq in
/-- The inputs of places with one hash are the same. -/
lemma input_eq_of_hash (hv : hidden.typeHash h t p = .ok (.hash v))
    (hv' : hidden.typeHash h t q = .ok (.hash v)) :
    ∃ a, hidden.input h t p = some a ∧ hidden.input h t q = some a := by
  obtain ⟨a, ha, hdigest⟩ := exists_input hv
  obtain ⟨b, hb, hdigest'⟩ := exists_input hv'
  have heq : a = b := hfree.eq (hp (input_mem_inputs ha)) (hq (input_mem_inputs hb))
    (hdigest.trans hdigest'.symm)
  exact ⟨a, ha, heq ▸ hb⟩

include hfree hp hq in
/-- Places with one type have one kind. -/
theorem SharesType.kind_eq (hshare : hidden.SharesType h t p q) : p.node.kind = q.node.kind := by
  obtain ⟨type, htype, htype'⟩ := hshare
  cases type with
  | plain => rw [field_of_plain htype, field_of_plain htype']
  | hash v =>
    obtain ⟨a, ha, hb⟩ := input_eq_of_hash hfree hp hq htype htype'
    obtain ⟨rest, rfl⟩ := input_eq_common ha
    obtain ⟨rest', heq⟩ := input_eq_common hb
    exact Hasher.kind_eq_of_input (HashItem.list.inj heq)

/-- What holds of both items that one item was made of. -/
lemma forall₂_of_common {α β : Type} {R : α → β → Prop} {l l' : List α} {items : List β}
    (hl : List.Forall₂ R l items) (hl' : List.Forall₂ R l' items) :
    List.Forall₂ (fun a a' => ∃ item, R a item ∧ R a' item) l l' := by
  induction hl generalizing l' with
  | nil =>
    cases hl'
    exact .nil
  | cons ha _ ih =>
    cases hl' with
    | cons ha' hrest' => exact .cons ⟨_, ha, ha'⟩ (ih hrest')

include hfree hp hq in
/-- Places with one type that are no fields are the same but for what is in them, and what is shown
in them contributes the same, in order. -/
theorem SharesType.contributions (hdistinct : p.Distinct) (hdistinct' : q.Distinct)
    (hfield : p.node.kind ≠ .field) (hshare : hidden.SharesType h t p q) :
    p.node.detail = q.node.detail ∧ List.Forall₂ (fun c d => ∃ item,
      hidden.Contributes h t p.node.kind c item ∧ hidden.Contributes h t p.node.kind d item)
      (hidden.accessors p) (hidden.accessors q) := by
  have hkind := hshare.kind_eq hfree hp hq
  have hfield' : q.node.kind ≠ .field := hkind ▸ hfield
  obtain ⟨type, htype, htype'⟩ := hshare
  obtain ⟨-, items, hitems, rfl⟩ := typeHash_eq_ok hfield htype
  obtain ⟨-, items', hitems', -⟩ := typeHash_eq_ok hfield' htype'
  obtain ⟨a, ha, hb⟩ := input_eq_of_hash hfree hp hq htype htype'
  rw [input_node hfield, hitems] at ha
  rw [input_node hfield', hitems', ← ha] at hb
  obtain ⟨hdetail, rfl⟩ := Hasher.nodeInput_inj hfield (Option.some.inj hb).symm
  refine ⟨hdetail, forall₂_of_common (forall₂_items hdistinct hitems) ?_⟩
  rw [hkind]
  exact forall₂_items hdistinct' hitems'

/-! ## Likeness -/

/-- Shown children of groups and memories that have one type, one name and one position. -/
structure SameMember (hidden : Screen) (h : Hasher) (t : RegisterTree) (c d : Place × String) :
    Prop where
  accessor : c.2 = d.2
  instName : c.1.node.instName = d.1.node.instName
  offset : c.1.node.component.offset = d.1.node.component.offset
  array : c.1.node.component.array = d.1.node.component.array
  type : hidden.SharesType h t c.1 d.1

/-- Shown fields that have one type, one name, one position and one value after reset. -/
structure SameField (hidden : Screen) (h : Hasher) (t : RegisterTree) (c d : Place × String) :
    Prop where
  accessor : c.2 = d.2
  instName : c.1.node.instName = d.1.node.instName
  details : ∃ f g, c.1.node.detail = .field f ∧ d.1.node.detail = .field g ∧
    f.geometry.msb = g.geometry.msb ∧ f.geometry.lsb = g.geometry.lsb ∧ f.reset = g.reset
  type : hidden.SharesType h t c.1 d.1

/-- Places that look the same, and in which the same things are shown, all the way down.  About
fields by themselves nothing more is said; what they have in common stands in their registers. -/
inductive Alike (hidden : Screen) (h : Hasher) (t : RegisterTree) : Place → Place → Prop
  | field {p q : Place} (hp : p.node.kind = .field) (hq : q.node.kind = .field) :
    Alike hidden h t p q
  | register {p q : Place} (hp : p.node.kind = .register) (detail : p.node.detail = q.node.detail)
      (fields : List.Forall₂ (hidden.SameField h t) (hidden.accessors p) (hidden.accessors q)) :
    Alike hidden h t p q
  | group {p q : Place} (hfield : p.node.kind ≠ .field) (hregister : p.node.kind ≠ .register)
      (detail : p.node.detail = q.node.detail)
      (members : List.Forall₂ (hidden.SameMember h t) (hidden.accessors p) (hidden.accessors q))
      (inner : ∀ c d, (c, d) ∈ (hidden.accessors p).zip (hidden.accessors q) →
        Alike hidden h t c.1 d.1) :
    Alike hidden h t p q

lemma sameField_of_contributes {c d : Place × String} {item : HashItem}
    (hc : hidden.Contributes h t .register c item)
    (hd : hidden.Contributes h t .register d item) : hidden.SameField h t c d := by
  obtain ⟨type, htype, f, hf, rfl⟩ := hc
  obtain ⟨type', htype', g, hg, heq⟩ := hd
  simp only [Hasher.fieldContribution, HashItem.list.injEq, List.cons.injEq,
    HashItem.text.injEq, and_true] at heq
  obtain ⟨hitem, hlsb, hmsb, -, -, hreset, -, hname, haccessor⟩ := heq
  cases TypeHash.item_injective hitem
  exact ⟨haccessor, hname, ⟨f, g, hf, hg, HashItem.nat_injective hmsb, HashItem.nat_injective hlsb,
    Hasher.reset_eq_of_item hreset⟩, type, htype, htype'⟩

lemma placedInput_mem_inputs {c : Place} (hregister : p.node.kind ≠ .register)
    (hc : c ∈ hidden.visibleChildren p) (htype : hidden.typeHash h t c = .ok type) :
    Hasher.placedInput c.node.component type ∈ hidden.inputs h t p := by
  unfold Screen.inputs
  rw [if_neg hregister]
  refine List.mem_append_right _ (List.mem_filterMap.2 ⟨c, hc, ?_⟩)
  rw [htype]
  rfl

include hfree hp hq in
lemma sameMember_of_contributes (hregister : p.node.kind ≠ .register)
    (hregister' : q.node.kind ≠ .register) {c d : Place × String} {item : HashItem}
    (hcp : c ∈ hidden.accessors p) (hdq : d ∈ hidden.accessors q)
    (hc : hidden.Contributes h t p.node.kind c item)
    (hd : hidden.Contributes h t p.node.kind d item) : hidden.SameMember h t c d := by
  obtain ⟨type, htype, hitem⟩ := hc
  obtain ⟨type', htype', hitem'⟩ := hd
  rw [if_neg hregister] at hitem hitem'
  rw [hitem] at hitem'
  simp only [Hasher.nodeContribution, HashItem.list.injEq, List.cons.injEq, HashItem.int.injEq,
    HashItem.text.injEq, and_true] at hitem'
  obtain ⟨hplaced, haccessor⟩ := hitem'
  have hinput := hfree.eq
    (hp (placedInput_mem_inputs hregister (fst_mem_of_mem_accessors hcp) htype))
    (hq (placedInput_mem_inputs hregister' (fst_mem_of_mem_accessors hdq) htype')) hplaced
  obtain ⟨rfl, hname, hoffset, harray⟩ := Hasher.placedInput_inj hinput
  exact ⟨haccessor, hname, hoffset, harray, type, htype, htype'⟩

omit hp hq in
include hfree in
/-- Places of a loaded tree that share a type are alike. -/
theorem alike_of_sharesType (ht : t.Loaded) (hp : p ∈ t.top.subtree) (hq : q ∈ t.top.subtree)
    (hhashed : hidden.hashed h t p ⊆ inputs) (hhashed' : hidden.hashed h t q ⊆ inputs)
    (hshare : hidden.SharesType h t p q) : hidden.Alike h t p q := by
  induction p using Place.induction generalizing q with
  | step p ih =>
    have hinputs := List.Subset.trans (inputs_subset_hashed (mem_places_self p)) hhashed
    have hinputs' := List.Subset.trans (inputs_subset_hashed (mem_places_self q)) hhashed'
    have hkind := hshare.kind_eq hfree hinputs hinputs'
    by_cases hfield : p.node.kind = .field
    · exact .field hfield (hkind ▸ hfield)
    obtain ⟨hdetail, hcontributions⟩ := hshare.contributions hfree hinputs hinputs'
      (ht.distinct_top.of_mem hp) (ht.distinct_top.of_mem hq) hfield
    by_cases hregister : p.node.kind = .register
    · refine .register hregister hdetail (hcontributions.imp fun c d hcd => ?_)
      obtain ⟨item, hc, hd⟩ := hcd
      rw [hregister] at hc hd
      exact sameField_of_contributes hc hd
    have hmembers : List.Forall₂ (hidden.SameMember h t) (hidden.accessors p)
        (hidden.accessors q) := by
      obtain ⟨hlength, hcommon⟩ := List.forall₂_iff_zip.1 hcontributions
      refine List.forall₂_iff_zip.2 ⟨hlength, fun {c d} hcd => ?_⟩
      obtain ⟨item, hc, hd⟩ := hcommon hcd
      obtain ⟨hcp, hdq⟩ := List.of_mem_zip hcd
      exact sameMember_of_contributes hfree hinputs hinputs' hregister
        (fun hq => hregister (hkind.trans hq)) hcp hdq hc hd
    refine .group hfield hregister hdetail hmembers fun c d hcd => ?_
    obtain ⟨hcp, hdq⟩ := List.of_mem_zip hcd
    have hcvisible := fst_mem_of_mem_accessors hcp
    have hdvisible := fst_mem_of_mem_accessors hdq
    have hcchild := mem_children_of_visible hcvisible
    have hdchild := mem_children_of_visible hdvisible
    refine ih c.1 hcchild (Place.children_mem_subtree hp hcchild)
      (Place.children_mem_subtree hq hdchild) ?_ ?_ ((List.forall₂_iff_zip.1 hmembers).2 hcd).type
    · exact List.Subset.trans (hashed_subset_hashed
        (visible_mem_places (mem_places_self p) hcvisible)) hhashed
    · exact List.Subset.trans (hashed_subset_hashed
        (visible_mem_places (mem_places_self q) hdvisible)) hhashed'

lemma Alike.kind_eq (halike : hidden.Alike h t p q) : p.node.kind = q.node.kind := by
  cases halike with
  | field hp hq => rw [hp, hq]
  | register _ detail _ => exact congrArg Detail.kind detail
  | group _ _ detail _ _ => exact congrArg Detail.kind detail

/-- The same types are shown in places that are alike. -/
lemma Alike.sharesType (halike : hidden.Alike h t p q) (hfield : p.node.kind ≠ .field) :
    List.Forall₂ (fun c d => hidden.SharesType h t c.1 d.1) (hidden.accessors p)
      (hidden.accessors q) := by
  cases halike with
  | field hp _ => exact absurd hp hfield
  | register _ _ fields => exact fields.imp fun _ _ hcd => hcd.type
  | group _ _ _ members _ => exact members.imp fun _ _ hcd => hcd.type

end Screen

end RegisterMap
