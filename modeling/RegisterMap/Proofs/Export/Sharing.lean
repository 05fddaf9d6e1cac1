import Mathlib
import RegisterMap.Proofs.Export.HashInput
import RegisterMap.Proofs.Export.RegisterHash

/-!
# Registers that share a type

Registers with one hash share one generated type, so they should have one layout.  As long as no two
inputs with different bytes have one digest, the hash decides the widths of a register and all that
its type tells of its fields (`registerInput_inj`), with one exception: a plain field has no hash,
and its access reaches the hash of the register only through whether any field can be read or
written.  So registers that share a type have one layout exactly when their plain fields agree in
access (`shared_layout_iff`).
-/

namespace RegisterMap

/-! ## Layouts -/

/-- What the generated type of a register tells of a field. -/
structure FieldView where
  /-- The name of the field. -/
  instName : String
  /-- The register bit that holds the most significant bit. -/
  msb : ℕ
  /-- The register bit that holds the least significant bit. -/
  lsb : ℕ
  /-- What software may do with the field. -/
  access : Access
  /-- Its value after reset. -/
  reset : Option ℕ
  /-- The name of its enumeration, and the values and names in that. -/
  enumeration : Option (String × List (ℕ × String))
deriving DecidableEq

/-- The layout of a register: its widths and its shown fields. -/
structure RegisterView where
  /-- The number of bits. -/
  width : ℕ
  /-- The number of bits of one physical access. -/
  accessWidth : ℕ
  /-- The shown fields, in order. -/
  fields : List FieldView
deriving DecidableEq

/-- The name of an enumeration, and the values and names in it. -/
def Enumeration.view (e : Enumeration) : String × List (ℕ × String) :=
  (e.name, e.entries.map fun entry => (entry.value, entry.name))

/-- What the generated type tells of a shown field. -/
def ShownField.view (f : ShownField) : FieldView where
  instName := f.component.instName
  msb := f.detail.geometry.msb
  lsb := f.detail.geometry.lsb
  access := f.detail.access
  reset := f.detail.reset
  enumeration := f.detail.encoding.map (·.enumeration.view)

/-- The layout of a register as an export shows it. -/
def ExportMemory.layout {σ : Type} (memory : ExportMemory σ) (p : Place) : Option RegisterView :=
  p.node.detail.register?.map fun r =>
    ⟨r.width, r.accessWidth, (memory.shown p).fields.map ShownField.view⟩

/-! ## Hash inputs -/

namespace HashItem

/-- An element that is a list. -/
def IsList : HashItem → Prop
  | list _ => True
  | _ => False

lemma not_isList_text (s : String) : ¬ (text s).IsList := id

lemma not_isList_flag (b : Bool) : ¬ (flag b).IsList := id

lemma nat_injective : Function.Injective nat := fun _ _ h => Int.ofNat.inj (int.inj h)

end HashItem

lemma TypeHash.item_injective : Function.Injective TypeHash.item := by
  intro a b h
  cases a <;> cases b
  · rfl
  · cases h
  · cases h
  · exact congrArg hash (HashItem.int.inj h)

namespace Hasher

variable (h : Hasher)

/-- The field has no type of its own. -/
def IsPlain (f : ShownField) : Prop := h.fieldType f.component f.detail = .plain

instance (f : ShownField) : Decidable (h.IsPlain f) :=
  inferInstanceAs (Decidable (h.fieldType f.component f.detail = .plain))

/-- What is hashed for a shown field: its enumeration, and the field itself unless it is plain. -/
def fieldInputs (f : ShownField) : List HashItem :=
  (f.detail.encoding.map encodingItem).toList ++
    if h.IsPlain f then [] else [h.fieldInput f.component f.detail]

/-- What is hashed for a register with these shown children. -/
def registerInputs (c : Component) (children : Accessors) : List HashItem :=
  h.registerInput c children :: children.fields.flatMap h.fieldInputs

/-- Among these inputs, those with one digest have the same bytes. -/
def CollisionFree (inputs : List HashItem) : Prop :=
  ∀ a ∈ inputs, ∀ b ∈ inputs, h.digest a = h.digest b → a.bytes = b.bytes

instance (inputs : List HashItem) : Decidable (h.CollisionFree inputs) :=
  inferInstanceAs (Decidable (∀ a ∈ inputs, ∀ b ∈ inputs, h.digest a = h.digest b →
    a.bytes = b.bytes))

variable {h}

lemma CollisionFree.eq {inputs : List HashItem} (hfree : h.CollisionFree inputs) {a b : HashItem}
    (ha : a ∈ inputs) (hb : b ∈ inputs) (hdigest : h.digest a = h.digest b) : a = b :=
  HashItem.bytes_injective (hfree a ha b hb hdigest)

/-- The common part of an input is the tag of the kind and some pairs. -/
lemma commonItems_eq (c : Component) : ∃ pairs, h.commonItems c = .text c.kind.tag :: pairs ∧
    ∀ item ∈ pairs, item.IsList := by
  have hpair (key : String) (value : Option String) :
      ∀ item ∈ (if h.documented then (value.map fun v => HashItem.pair key (.text v)).toList else []),
        item.IsList := by
    intro item hitem
    cases value <;> cases hdoc : h.documented <;> simp [hdoc] at hitem
    rw [hitem]
    trivial
  refine ⟨_, rfl, fun item hitem => ?_⟩
  rcases List.mem_append.1 hitem with hitem | hitem
  · rcases List.mem_append.1 hitem with hname | hdesc
    · exact hpair _ _ item hname
    · exact hpair _ _ item hdesc
  · obtain ⟨p, -, hp⟩ := List.mem_filterMap.1 hitem
    obtain ⟨v, -, rfl⟩ := Option.map_eq_some_iff.1 hp
    trivial

/-- An input tells its common part from what follows. -/
lemma commonItems_append_inj {c c' : Component} {a b : HashItem} {rest rest' : List HashItem}
    (ha : ¬ a.IsList) (hb : ¬ b.IsList)
    (heq : h.commonItems c ++ a :: rest = h.commonItems c' ++ b :: rest') :
    h.commonItems c = h.commonItems c' ∧ a = b ∧ rest = rest' := by
  obtain ⟨pairs, hc, hpairs⟩ := h.commonItems_eq c
  obtain ⟨pairs', hc', hpairs'⟩ := h.commonItems_eq c'
  rw [hc, hc'] at heq ⊢
  obtain ⟨htag, htail⟩ := List.cons.inj heq
  obtain ⟨hpairs, hrest⟩ := Json.append_inj_of_class hpairs hpairs' (by simpa using ha)
    (by simpa using hb) htail
  rw [htag, hpairs]
  exact ⟨rfl, List.cons.inj hrest⟩

/-! ## Fields -/

/-- The input of an enumeration tells its name and its entries. -/
lemma enumeration_eq_of_encodingItem {e e' : FieldEncoding} (heq : encodingItem e = encodingItem e') :
    e.enumeration = e'.enumeration := by
  simp only [encodingItem, HashItem.list.injEq, List.cons.injEq, HashItem.text.injEq, true_and,
    and_true] at heq
  obtain ⟨-, hname, hentries⟩ := heq
  have hentry : Function.Injective fun entry : EnumEntry =>
      HashItem.list ([.nat entry.value, .text entry.name] ++ (entry.desc.map .text).toList) := by
    rintro ⟨value, name, desc⟩ ⟨value', name', desc'⟩ hentry
    simp only [HashItem.list.injEq, List.cons_append, List.nil_append, List.cons.injEq,
      HashItem.text.injEq] at hentry
    obtain ⟨hvalue, rfl, hdesc⟩ := hentry
    cases HashItem.nat_injective hvalue
    cases desc <;> cases desc' <;> cases hdesc <;> rfl
  obtain ⟨⟨name, entries⟩, scope⟩ := e
  obtain ⟨⟨name', entries'⟩, scope'⟩ := e'
  cases hname
  cases List.map_injective_iff.2 hentry hentries
  rfl

/-- A field with an enumeration is not plain. -/
lemma encoding_of_isPlain {f : ShownField} (hf : h.IsPlain f) : f.detail.encoding = none := by
  unfold IsPlain fieldType at hf
  split at hf
  · next hlength =>
    cases hencoding : f.detail.encoding with
    | none => rfl
    | some encoding =>
      rw [fieldItems, hencoding] at hlength
      simp [commonItems] at hlength
      omega
  · cases hf

lemma access_eq_of_keyword {a b : Access} (heq : a.keyword = b.keyword) : a = b := by
  rw [← Option.some_inj, ← Access.ofKeyword?_keyword a, ← Access.ofKeyword?_keyword b, heq]

lemma encodingItem_mem_fieldInputs {f : ShownField} :
    ∀ encoding ∈ f.detail.encoding, encodingItem encoding ∈ h.fieldInputs f := by
  intro encoding hencoding
  simp [fieldInputs, Option.mem_def.1 hencoding]

lemma fieldInput_mem_fieldInputs {f : ShownField} (hf : ¬ h.IsPlain f) :
    h.fieldInput f.component f.detail ∈ h.fieldInputs f := by
  simp [fieldInputs, hf]

lemma fieldType_of_not_isPlain {f : ShownField} (hf : ¬ h.IsPlain f) :
    h.fieldType f.component f.detail = .hash (h.digest (h.fieldInput f.component f.detail)) := by
  unfold IsPlain at hf
  unfold fieldType at hf ⊢
  split at hf
  · exact absurd rfl hf
  · next hlength => rw [if_neg hlength]

/-- The input of a field tells its access and its enumeration. -/
lemma fieldInput_inj {inputs : List HashItem} (hfree : h.CollisionFree inputs) {c c' : Component}
    {f g : FieldDetail} (hf : ∀ encoding ∈ f.encoding, encodingItem encoding ∈ inputs)
    (hg : ∀ encoding ∈ g.encoding, encodingItem encoding ∈ inputs)
    (heq : h.fieldInput c f = h.fieldInput c' g) :
    f.access = g.access ∧ f.encoding.map (·.enumeration) = g.encoding.map (·.enumeration) := by
  unfold fieldInput fieldItems at heq
  rw [HashItem.list.injEq, List.append_assoc, List.append_assoc, List.cons_append, List.cons_append]
    at heq
  obtain ⟨-, haccess, hrest⟩ := commonItems_append_inj (HashItem.not_isList_text _)
    (HashItem.not_isList_text _) heq
  refine ⟨access_eq_of_keyword (HashItem.text.inj haccess), ?_⟩
  obtain ⟨hencoding, -⟩ := List.append_inj' hrest rfl
  rcases hef : f.encoding with _ | encoding
  · rcases heg : g.encoding with _ | encoding'
    · rfl
    · simp [hef, heg] at hencoding
  · rcases heg : g.encoding with _ | encoding'
    · simp [hef, heg] at hencoding
    · have hhash : h.encodingHash encoding = h.encodingHash encoding' := by
        simpa [hef, heg, HashItem.pair] using hencoding
      have hitem := hfree.eq (hf encoding hef) (hg encoding' heg) hhash
      exact congrArg some (enumeration_eq_of_encodingItem hitem)

lemma reset_eq_of_item {r r' : Option ℕ}
    (heq : (r.map HashItem.nat).getD (.text "none") = (r'.map HashItem.nat).getD (.text "none")) :
    r = r' := by
  cases r <;> cases r'
  · rfl
  · cases heq
  · cases heq
  · exact congrArg some (HashItem.nat_injective heq)

/-- Fields that contribute the same have the same view, unless they are plain and differ in
access. -/
lemma view_eq_iff {inputs : List HashItem} (hfree : h.CollisionFree inputs) {f g : ShownField}
    (hf : h.fieldInputs f ⊆ inputs) (hg : h.fieldInputs g ⊆ inputs)
    (heq : h.shownContribution f = h.shownContribution g) :
    f.view = g.view ↔ (h.IsPlain f → f.detail.access = g.detail.access) := by
  simp only [shownContribution, fieldContribution, HashItem.list.injEq, List.cons.injEq,
    HashItem.text.injEq, and_true] at heq
  obtain ⟨htype, hlsb, hmsb, -, -, hreset, -, hname, -⟩ := heq
  have hreset : f.detail.reset = g.detail.reset := reset_eq_of_item hreset
  have hview : f.detail.access = g.detail.access →
      f.detail.encoding.map (·.enumeration) = g.detail.encoding.map (·.enumeration) →
      f.view = g.view := by
    intro haccess hencoding
    have hencoding : f.detail.encoding.map (·.enumeration.view) =
        g.detail.encoding.map (·.enumeration.view) := by
      simpa only [Option.map_map, Function.comp_def] using
        congrArg (Option.map Enumeration.view) hencoding
    simp only [ShownField.view, hname, HashItem.nat_injective hlsb, HashItem.nat_injective hmsb,
      haccess, hreset, hencoding]
  constructor
  · exact fun hviews _ => congrArg FieldView.access hviews
  · intro hplain
    have htype : h.fieldType f.component f.detail = h.fieldType g.component g.detail :=
      TypeHash.item_injective htype
    by_cases hfplain : h.IsPlain f
    · have hgplain : h.IsPlain g := htype.symm.trans hfplain
      refine hview (hplain hfplain) ?_
      rw [encoding_of_isPlain hfplain, encoding_of_isPlain hgplain]
    · have hgplain : ¬ h.IsPlain g := fun hg => hfplain (htype.trans hg)
      rw [fieldType_of_not_isPlain hfplain, fieldType_of_not_isPlain hgplain] at htype
      have hinput := hfree.eq (hf (fieldInput_mem_fieldInputs hfplain))
        (hg (fieldInput_mem_fieldInputs hgplain)) (TypeHash.hash.inj htype)
      obtain ⟨haccess, hencoding⟩ := fieldInput_inj hfree
        (fun encoding he => hf (encodingItem_mem_fieldInputs encoding he))
        (fun encoding he => hg (encodingItem_mem_fieldInputs encoding he)) hinput
      exact hview haccess hencoding

/-- Of fields that contribute the same, position by position, the plain ones decide whether they
have the same views. -/
lemma map_view_eq_iff {inputs : List HashItem} (hfree : h.CollisionFree inputs)
    {fs gs : List ShownField} (hfs : fs.flatMap h.fieldInputs ⊆ inputs)
    (hgs : gs.flatMap h.fieldInputs ⊆ inputs)
    (heq : fs.map h.shownContribution = gs.map h.shownContribution) :
    fs.map ShownField.view = gs.map ShownField.view ↔
      ∀ (i : ℕ) (f g : ShownField), fs[i]? = some f → gs[i]? = some g → h.IsPlain f →
        f.detail.access = g.detail.access := by
  rw [List.ext_getElem?_iff] at heq ⊢
  refine forall_congr' fun i => ?_
  have hi := heq i
  rw [List.getElem?_map, List.getElem?_map] at hi ⊢
  rcases hf : fs[i]? with _ | f <;> rcases hg : gs[i]? with _ | g <;> rw [hf, hg] at hi
  · simp
  · cases hi
  · cases hi
  · have hfinputs : h.fieldInputs f ⊆ inputs := fun a ha =>
      hfs (List.mem_flatMap.2 ⟨f, List.mem_of_getElem? hf, ha⟩)
    have hginputs : h.fieldInputs g ⊆ inputs := fun a ha =>
      hgs (List.mem_flatMap.2 ⟨g, List.mem_of_getElem? hg, ha⟩)
    simpa using view_eq_iff hfree hfinputs hginputs (Option.some.inj hi)

/-! ## Registers -/

/-- The input of a register tells its widths and what its fields contribute. -/
theorem registerInput_inj {c c' : Component} {r r' : RegisterDetail} (hr : c.detail = .register r)
    (hr' : c'.detail = .register r') {children children' : Accessors}
    (heq : h.registerInput c children = h.registerInput c' children') :
    r.width = r'.width ∧ r.accessWidth = r'.accessWidth ∧
      children.fields.map h.shownContribution = children'.fields.map h.shownContribution := by
  unfold registerInput nodeInput ownItems registerItems at heq
  rw [hr, hr', HashItem.list.injEq] at heq
  simp only [List.append_assoc, List.cons_append, List.nil_append] at heq
  obtain ⟨-, -, hrest⟩ := commonItems_append_inj (HashItem.not_isList_flag _)
    (HashItem.not_isList_flag _) heq
  simp only [List.cons.injEq] at hrest
  obtain ⟨-, haccess, hwidth, -, hrest⟩ := hrest
  exact ⟨HashItem.nat_injective hwidth, HashItem.nat_injective haccess,
    (List.append_inj' hrest rfl).1⟩

end Hasher

namespace Export

open ExportMemory

variable {σ : Type} {e : Export σ} {memory memory' : ExportMemory σ} {p q : Place} {v : ℤ}

lemma exists_register (hkind : p.node.kind = .register) : ∃ r, p.node.detail = .register r := by
  unfold Node.kind Component.kind at hkind
  unfold Node.detail
  cases hdetail : p.node.component.detail with
  | register r => exact ⟨r, rfl⟩
  | _ => rw [hdetail] at hkind; cases hkind

/-- Asking for the hashes of two registers from any memory of an export, with the same answer: the
registers have one layout exactly when their plain fields agree in access. -/
theorem shared_layout_iff (ht : e.tree.Loaded) (hreached : e.Reached memory)
    (hp : p ∈ e.tree.top.subtree) (hq : q ∈ e.tree.top.subtree)
    (hpkind : p.node.kind = .register) (hqkind : q.node.kind = .register)
    (hask : (do return (← e.typeHash p, ← e.typeHash q)).run memory =
      (.ok (.hash v, .hash v), memory'))
    (hfree : e.hasher.CollisionFree (e.hasher.registerInputs p.node.component (memory'.shown p) ++
      e.hasher.registerInputs q.node.component (memory'.shown q))) :
    memory'.layout p = memory'.layout q ↔
      ∀ (i : ℕ) (f g : ShownField), (memory'.shown p).fields[i]? = some f →
        (memory'.shown q).fields[i]? = some g → e.hasher.IsPlain f →
          f.detail.access = g.detail.access := by
  have hfaithful := hreached.faithful ht
  have hasked : Leads e memory (do return (← e.typeHash p, ← e.typeHash q)) fun types s =>
      s.Explains e.hasher p types.1 ∧ s.Explains e.hasher q types.2 := by
    refine (leads_typeHash ht.numbered_top hp).bind fun type s _ hexplains => ?_
    refine (leads_typeHash ht.numbered_top hq).bind fun type' s' hwithin hexplains' => ?_
    exact Leads.pure ⟨hexplains.mono hwithin, hexplains'⟩
  obtain ⟨-, -, hvalues⟩ := hasked hfaithful
  rw [hask] at hvalues
  obtain ⟨hexplains, hexplains'⟩ := hvalues _ rfl
  obtain ⟨r, hr⟩ := exists_register hpkind
  obtain ⟨r', hr'⟩ := exists_register hqkind
  obtain ⟨children, hshown, -, hhash⟩ := (explains_register hr).1 hexplains
  obtain ⟨children', hshown', -, hhash'⟩ := (explains_register hr').1 hexplains'
  simp only [ExportMemory.shown, hshown, hshown', Option.getD_some] at hfree ⊢
  have hinput : e.hasher.registerInput p.node.component children =
      e.hasher.registerInput q.node.component children' :=
    hfree.eq (by simp [Hasher.registerInputs]) (by simp [Hasher.registerInputs])
      ((TypeHash.hash.inj hhash).symm.trans (TypeHash.hash.inj hhash'))
  obtain ⟨hwidth, haccess, hfields⟩ := Hasher.registerInput_inj hr hr' hinput
  rw [← Hasher.map_view_eq_iff hfree (fun a ha => by simp [Hasher.registerInputs, ha])
    (fun a ha => by simp [Hasher.registerInputs, ha]) hfields]
  simp [ExportMemory.layout, hr, hr', hwidth, haccess, ExportMemory.shown, hshown, hshown',
    Detail.register?]

/-! ## Two registers -/

/-- An address map of two registers `a` and `b` with fields `x` and `y` of these accesses. -/
def twoRegisters (x y x' y' : Access) : Description :=
  .group .addressMap "top" 0
    [.register "a" 0 [.field "x" 0 3 x [], .field "y" 4 7 y []],
      .register "b" 4 [.field "x" 0 3 x' [], .field "y" 4 7 y' []]]

/-- The hashes of the first two nodes of a tree, and what is remembered after asking for them. -/
def askedTwo (t : RegisterTree) : Except ExportFault (TypeHash × TypeHash) × ExportMemory Unit :=
  (do return (← (usual t).typeHash (t.top.part 0), ← (usual t).typeHash (t.top.part 1))).run
    (.empty ())

/-- What is hashed for the first two nodes of a tree, if they are registers. -/
def inputsOfTwo (t : RegisterTree) : List HashItem :=
  let inputs (p : Place) :=
    (usual t).hasher.registerInputs p.node.component ((askedTwo t).2.shown p)
  inputs (t.top.part 0) ++ inputs (t.top.part 1)

/-- Two registers with the same fields. -/
def twins : RegisterTree := (twoRegisters .readOnly .readWrite .readOnly .readWrite).tree

/-- Two registers whose fields have exchanged their accesses. -/
def exchanged : RegisterTree := (twoRegisters .readOnly .readWrite .readWrite .readOnly).tree

lemma access_eq_of_map_eq {fs gs : List ShownField}
    (heq : fs.map (·.detail.access) = gs.map (·.detail.access)) {i : ℕ} {f g : ShownField}
    (hf : fs[i]? = some f) (hg : gs[i]? = some g) : f.detail.access = g.detail.access := by
  have hi := congrArg (·[i]?) heq
  simpa [hf, hg] using hi

/-- Registers with the same fields share a type and have one layout. -/
theorem twins_have_one_layout :
    (askedTwo twins).2.layout (twins.top.part 0) = (askedTwo twins).2.layout (twins.top.part 1) := by
  have ht : twins.Loaded := Description.loaded_tree
    (d := twoRegisters .readOnly .readWrite .readOnly .readWrite) (by decide +kernel)
  have hask : (askedTwo twins).1 =
      .ok (.hash (-7426153860726717430), .hash (-7426153860726717430)) := by decide +kernel
  have hfree : (usual twins).hasher.CollisionFree (inputsOfTwo twins) := by decide +kernel
  have hkind : (twins.top.part 0).node.kind = .register := by decide +kernel
  have hkind' : (twins.top.part 1).node.kind = .register := by decide +kernel
  have haccess : ((askedTwo twins).2.shown (twins.top.part 0)).fields.map (·.detail.access) =
      ((askedTwo twins).2.shown (twins.top.part 1)).fields.map (·.detail.access) := by
    decide +kernel
  have hrun : askedTwo twins = (.ok (.hash (-7426153860726717430),
    .hash (-7426153860726717430)), (askedTwo twins).2) := Prod.ext hask rfl
  have htop := twins.top.mem_subtree_self
  have hiff := shared_layout_iff (e := usual twins) ht (.fresh ()) (Place.part_mem_subtree htop 0)
    (Place.part_mem_subtree htop 1) hkind hkind' hrun hfree
  exact hiff.2 fun i f g hf hg _ => access_eq_of_map_eq haccess hf hg

/-- Registers of different layouts share a type: their fields have exchanged their accesses. -/
theorem exchanged_share_type : exchanged.Loaded ∧
    (askedTwo exchanged).1 = .ok (.hash (-7426153860726717430), .hash (-7426153860726717430)) ∧
    (usual exchanged).hasher.CollisionFree (inputsOfTwo exchanged) ∧
    (askedTwo exchanged).2.layout (exchanged.top.part 0) ≠
      (askedTwo exchanged).2.layout (exchanged.top.part 1) := by
  refine ⟨Description.loaded_tree (d := twoRegisters .readOnly .readWrite .readWrite .readOnly) ?_,
    ?_, ?_, ?_⟩
  all_goals decide +kernel

end Export

end RegisterMap
