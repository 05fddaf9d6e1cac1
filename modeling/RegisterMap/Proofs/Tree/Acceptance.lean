import Mathlib
import RegisterMap.Proofs.Field.Codec
import RegisterMap.Proofs.Tree.Contents

/-!
# Which descriptions are accepted

`Description.WellFormed` says what a description has to be, node by node and without a loader: what
may be in what, which attributes a kind needs, and what their numbers have to satisfy.  The loader
accepts a node of a description exactly when it is well-formed and, if it is a field, fits the
register around it (`Node.exists_ofDescription_iff`).

The loader compares masks where the description speaks of bits: two fields overlap when their masks
have a common one, which is a bit that both cover, whichever of its ends a field names first
(`FieldDetail.overlaps_eq_false_iff`).  It compares values with the largest word of a field's width,
so a description is taken to hold words (`Description.HoldsWords`).
-/

namespace RegisterMap

/-! ## Numbers -/

/-- A number of bits that a register or an access may have: a power of two of at least eight bits,
up to a bound. -/
def IsSize (max width : ℕ) : Prop := (∃ k, width = 2 ^ k) ∧ 8 ≤ width ∧ width ≤ max

lemma isWidth_iff_isSize {width max : ℕ} : isWidth width max = true ↔ IsSize max width := by
  rw [isWidth_iff, IsSize]
  refine and_congr_left fun _ => ⟨fun h => ⟨_, h.symm⟩, ?_⟩
  rintro ⟨k, rfl⟩
  rw [Nat.log2_two_pow]

/-- The largest word of a width bounds those words that fit the width. -/
lemma le_wordMask_iff {value width : ℕ} (hvalue : value < 2 ^ maxWordWidth) :
    value ≤ wordMask width ↔ value < 2 ^ width := by
  have hpos : 0 < 2 ^ min width maxWordWidth := Nat.two_pow_pos _
  simp only [wordMask, valueCount, Nat.pow_eq]
  by_cases hwidth : width ≤ maxWordWidth
  · rw [Nat.min_eq_left hwidth] at hpos ⊢
    omega
  · have hle : maxWordWidth ≤ width := by omega
    have hpow : 2 ^ maxWordWidth ≤ 2 ^ width := Nat.pow_le_pow_right (by decide) hle
    rw [Nat.min_eq_right hle] at hpos ⊢
    omega

/-! ## Well-formed descriptions -/

/-- The shape of an array with elements, some way apart. -/
structure ArrayShape.WellFormed (s : ArrayShape) : Prop where
  dimensions_ne_nil : s.dimensions ≠ []
  dimensions_ne_zero : ∀ n ∈ s.dimensions, n ≠ 0
  stride_ne_zero : s.stride ≠ 0

namespace Attributes

/-- The number of bits of one access to registers or entries of the given width: all of them, as far
as a word reaches, unless the attributes say otherwise. -/
def accessWidthIn (a : Attributes) (width : ℕ) : ℕ := a.accessWidth.getD (min width maxWordWidth)

/-- The attributes of a register of the given width. -/
structure RegisterFits (a : Attributes) (width : ℕ) : Prop where
  width_eq : a.registerWidth = some width
  width_size : IsSize maxValueWidth width
  access_size : IsSize maxWordWidth (a.accessWidthIn width)
  access_le : a.accessWidthIn width ≤ width

/-- The attributes of a memory with so many entries of the given width. -/
structure MemoryFits (a : Attributes) (entries width : ℕ) : Prop where
  entries_eq : a.memoryEntries = some entries
  width_eq : a.memoryWidth = some width
  entries_pos : 1 ≤ entries
  width_bounds : 8 ≤ width ∧ width ≤ maxValueWidth
  access_bounds : 8 ≤ a.accessWidthIn width ∧ a.accessWidthIn width ≤ maxWordWidth
  access_dvd : a.accessWidthIn width ∣ width

/-- The attributes of a field between two bits of a register of the given width.  The ends may come
in either order. -/
structure FieldFits (a : Attributes) (width msb lsb : ℕ) : Prop where
  msb_eq : a.msb = some msb
  lsb_eq : a.lsb = some lsb
  ends_lt : max msb lsb < width
  reset_lt : ∀ value, a.reset = some value → value < 2 ^ span (min msb lsb) (max msb lsb)
  entries_lt : ∀ e, a.encoding = some e → ∀ entry ∈ e.enumeration.entries,
    entry.value < 2 ^ span (min msb lsb) (max msb lsb)

/-- The register bit lies between the ends of the field, or is one of them. -/
def Covers (a : Attributes) (bit : ℕ) : Prop :=
  ∃ msb lsb, a.msb = some msb ∧ a.lsb = some lsb ∧ min msb lsb ≤ bit ∧ bit ≤ max msb lsb

/-- The fields of a register of the given width. -/
structure FieldsFit (fields : List Attributes) (width : ℕ) : Prop where
  ne_nil : fields ≠ []
  fits : ∀ a ∈ fields, ∃ msb lsb, a.FieldFits width msb lsb
  disjoint : fields.Pairwise fun a b => ∀ bit, ¬ (a.Covers bit ∧ b.Covers bit)

/-- The values that the attributes name are words. -/
structure HoldsWords (a : Attributes) : Prop where
  reset_lt : ∀ value, a.reset = some value → value < 2 ^ maxWordWidth
  entries_lt : ∀ e, a.encoding = some e → ∀ entry ∈ e.enumeration.entries,
    entry.value < 2 ^ maxWordWidth

end Attributes

namespace Description

/-- What the fields among several descriptions say about themselves. -/
def fieldsAmong (ds : List Description) : List Attributes :=
  (ds.map attributes).filter fun a => a.kind = .field

/-- Everything in the description may be where it is and says what its kind needs.  What a field has
to satisfy is asked with its register, since it depends on it. -/
inductive WellFormed : Description → Prop
  | mk {a : Attributes} {ds : List Description}
      (array : ∀ s, a.array = some s → s.WellFormed)
      (children : ∀ d ∈ ds, a.kind.mayContain d.attributes.kind = true)
      (register : a.kind = .register →
        ∃ width, a.RegisterFits width ∧ Attributes.FieldsFit (fieldsAmong ds) width)
      (memory : a.kind = .memory → ∃ entries width, a.MemoryFits entries width)
      (inner : ∀ d ∈ ds, WellFormed d) : WellFormed (.mk a ds)

/-- All values in the description are words. -/
inductive HoldsWords : Description → Prop
  | mk {a : Attributes} {ds : List Description} (own : a.HoldsWords)
      (inner : ∀ d ∈ ds, HoldsWords d) : HoldsWords (.mk a ds)

end Description

/-! ## Attributes of one node -/

lemma ArrayShape.check_eq_ok_iff (path : String) {s : ArrayShape} :
    s.check path = .ok () ↔ s.WellFormed := by
  have hdimensions : (s.dimensions.isEmpty || s.dimensions.contains 0) = true ↔
      s.dimensions = [] ∨ 0 ∈ s.dimensions := by
    simp
  unfold check
  constructor
  · intro h
    split at h
    · cases h
    next hshape =>
    split at h
    · cases h
    next hstride =>
    rw [hdimensions, not_or] at hshape
    exact ⟨hshape.1, fun n hn hzero => hshape.2 (hzero ▸ hn), hstride⟩
  · intro h
    rw [if_neg, if_neg h.stride_ne_zero]
    rw [hdimensions, not_or]
    exact ⟨h.dimensions_ne_nil, fun hzero => h.dimensions_ne_zero 0 hzero rfl⟩

namespace Attributes

variable {path : String} {register : Option RegisterDetail} {a : Attributes} {c : Component}

lemma toRegister_eq_ok_iff_registerFits {r : RegisterDetail} : a.toRegister path = .ok r ↔
    a.RegisterFits r.width ∧ r.accessWidth = a.accessWidthIn r.width := by
  rw [toRegister_eq_ok_iff]
  constructor
  · rintro ⟨hwidth, haccess, hpowers⟩
    have hsize := isWidth_iff_isSize.1 hpowers.accessWidth
    have hle := hpowers.accessWidth_le_width
    rw [haccess] at hsize hle
    exact ⟨⟨hwidth, isWidth_iff_isSize.1 hpowers.width, hsize, hle⟩, haccess⟩
  · rintro ⟨hfits, haccess⟩
    refine ⟨hfits.width_eq, haccess, isWidth_iff_isSize.2 hfits.width_size, ?_, ?_⟩
    · rw [haccess]
      exact isWidth_iff_isSize.2 hfits.access_size
    · rw [haccess]
      exact hfits.access_le

lemma toMemory_eq_ok_iff_memoryFits {m : MemoryDetail} : a.toMemory path = .ok m ↔
    a.MemoryFits m.entries m.width ∧ m.accessWidth = a.accessWidthIn m.width ∧
      m.access = a.access.getD .readWrite := by
  rw [toMemory_eq_ok_iff]
  constructor
  · rintro ⟨hentries, hwidth, haccess, haccessible, hbounds, hsizes, hne⟩
    rw [haccess] at hsizes
    exact ⟨⟨hentries, hwidth, Nat.one_le_iff_ne_zero.2 hne, hbounds, ⟨hsizes.1, hsizes.2.1⟩,
      Nat.dvd_of_mod_eq_zero hsizes.2.2⟩, haccess, haccessible⟩
  · rintro ⟨hfits, haccess, haccessible⟩
    refine ⟨hfits.entries_eq, hfits.width_eq, haccess, haccessible, hfits.width_bounds, ?_,
      Nat.one_le_iff_ne_zero.1 hfits.entries_pos⟩
    rw [haccess]
    exact ⟨hfits.access_bounds.1, hfits.access_bounds.2, Nat.mod_eq_zero_of_dvd hfits.access_dvd⟩

/-- The number of bits below which a field has to end. -/
def fieldLimit (register : Option RegisterDetail) : ℕ :=
  (register.map RegisterDetail.width).getD maxValueWidth

lemma toField_eq_ok_iff_fieldFits (ha : a.HoldsWords)
    (hwidth : ∀ r, register = some r → r.width ≤ maxValueWidth) {f : FieldDetail} :
    a.toField path register = .ok f ↔
      ∃ msb lsb, a.FieldFits (fieldLimit register) msb lsb ∧
        f = ⟨⟨min msb lsb, span (min msb lsb) (max msb lsb), decide (msb < lsb)⟩,
          a.access.getD .readWrite, a.hardwareWritable.getD true, a.reset, a.encoding⟩ := by
  have hlimit : ∀ high, (high < maxValueWidth ∧ ∀ r, register = some r → high < r.width) ↔
      high < fieldLimit register := by
    intro high
    cases register with
    | none => simp [fieldLimit]
    | some r =>
      have := hwidth r rfl
      simp only [fieldLimit, Option.map_some, Option.getD_some, Option.some.injEq, forall_eq']
      omega
  rw [toField_eq_ok_iff]
  constructor
  · rintro ⟨msb, lsb, g, hmsb, hlsb, hg, hregister, hreset, hentries, rfl⟩
    obtain ⟨hmax, rfl⟩ := Geometry.ofMsbLsb_eq_ok_iff.1 hg
    rw [Geometry.high_of_ends] at hregister
    refine ⟨msb, lsb, ⟨hmsb, hlsb, (hlimit _).1 ⟨hmax, hregister⟩, ?_, ?_⟩, rfl⟩
    · exact fun value hvalue => (le_wordMask_iff (ha.reset_lt value hvalue)).1 (hreset value hvalue)
    · exact fun e he entry hentry =>
        (le_wordMask_iff (ha.entries_lt e he entry hentry)).1 (hentries e he entry hentry)
  · rintro ⟨msb, lsb, h, rfl⟩
    obtain ⟨hmax, hregister⟩ := (hlimit _).2 h.ends_lt
    refine ⟨msb, lsb, _, h.msb_eq, h.lsb_eq, Geometry.ofMsbLsb_eq_ok_iff.2 ⟨hmax, rfl⟩, ?_, ?_, ?_,
      rfl⟩
    · rwa [Geometry.high_of_ends]
    · exact fun value hvalue => (le_wordMask_iff (ha.reset_lt value hvalue)).2 (h.reset_lt value hvalue)
    · exact fun e he entry hentry =>
        (le_wordMask_iff (ha.entries_lt e he entry hentry)).2 (h.entries_lt e he entry hentry)

/-- What is kept of a node whose kind asks for these details. -/
def withDetail (a : Attributes) (detail : Detail) : Component :=
  ⟨a.instName, a.typeName, a.scopePath, a.name, a.desc, a.offset, a.array, a.properties, detail⟩

lemma toComponent_eq_ok_iff : a.toComponent path register = .ok c ↔
    (∀ s, a.array = some s → s.WellFormed) ∧
      ∃ detail, a.toDetail path register = .ok detail ∧ a.withDetail detail = c := by
  have hfinish : a.withDetail <$> a.toDetail path register = .ok c ↔
      ∃ detail, a.toDetail path register = .ok detail ∧ a.withDetail detail = c := map_eq_ok
  rw [← hfinish]
  unfold toComponent withDetail
  cases harray : a.array with
  | none => simp
  | some s =>
    simp only [Option.some.injEq, forall_eq', ← ArrayShape.check_eq_ok_iff path]
    rw [bind_eq_ok]
    simp only [bind_pure_comp]
    exact ⟨fun ⟨_, hcheck, h⟩ => ⟨hcheck, h⟩, fun ⟨hcheck, h⟩ => ⟨(), hcheck, h⟩⟩

/-- Which kinds need more than the attributes that all of them have. -/
lemma exists_toDetail_iff (path : String) (ha : a.HoldsWords)
    (hwidth : ∀ r, register = some r → r.width ≤ maxValueWidth) :
    (∃ detail, a.toDetail path register = .ok detail) ↔
      (a.kind = .register → ∃ width, a.RegisterFits width) ∧
      (a.kind = .field → ∃ msb lsb, a.FieldFits (fieldLimit register) msb lsb) ∧
      (a.kind = .memory → ∃ entries width, a.MemoryFits entries width) := by
  have hmap : ∀ {α : Type} (f : α → Detail) (x : Except TreeFault α),
      (∃ detail, f <$> x = .ok detail) ↔ ∃ b, x = .ok b := by
    intro α f x
    simp only [map_eq_ok]
    exact ⟨fun ⟨_, b, hb, _⟩ => ⟨b, hb⟩, fun ⟨b, hb⟩ => ⟨_, b, hb, rfl⟩⟩
  unfold toDetail
  cases hkind : a.kind with
  | addressMap | registerFile | signal => simp [pure, Except.pure]
  | register =>
    rw [hmap]
    constructor
    · rintro ⟨r, h⟩
      exact ⟨fun _ => ⟨r.width, (toRegister_eq_ok_iff_registerFits.1 h).1⟩, nofun, nofun⟩
    · intro h
      obtain ⟨width, hfits⟩ := h.1 rfl
      exact ⟨⟨width, a.accessWidthIn width⟩, toRegister_eq_ok_iff_registerFits.2 ⟨hfits, rfl⟩⟩
  | field =>
    rw [hmap]
    constructor
    · rintro ⟨f, h⟩
      obtain ⟨msb, lsb, hfits, -⟩ := (toField_eq_ok_iff_fieldFits ha hwidth).1 h
      exact ⟨nofun, fun _ => ⟨msb, lsb, hfits⟩, nofun⟩
    · intro h
      obtain ⟨msb, lsb, hfits⟩ := h.2.1 rfl
      exact ⟨_, (toField_eq_ok_iff_fieldFits ha hwidth).2 ⟨msb, lsb, hfits, rfl⟩⟩
  | memory =>
    rw [hmap]
    constructor
    · rintro ⟨m, h⟩
      exact ⟨nofun, nofun, fun _ => ⟨m.entries, m.width, (toMemory_eq_ok_iff_memoryFits.1 h).1⟩⟩
    · intro h
      obtain ⟨entries, width, hfits⟩ := h.2.2 rfl
      exact ⟨⟨entries, width, a.accessWidthIn width, a.access.getD .readWrite⟩,
        toMemory_eq_ok_iff_memoryFits.2 ⟨hfits, rfl, rfl⟩⟩

end Attributes

/-! ## Fields that share no bit -/

/-- No register bit belongs to both fields. -/
def Geometry.Apart (g h : Geometry) : Prop := ∀ bit, ¬ (g.Covers bit ∧ h.Covers bit)

/-- Fields of one register overlap where both cover a bit. -/
lemma FieldDetail.overlaps_eq_false_iff {f g : FieldDetail} {width : ℕ}
    (hf : f.geometry.Within width) (hg : g.geometry.Within width) (hwidth : width ≤ maxValueWidth) :
    f.overlaps g = false ↔ g.geometry.Apart f.geometry := by
  have hcommon : ∀ bit, (f.geometry.bitmask &&& g.geometry.bitmask).testBit bit =
      decide (f.geometry.Covers bit ∧ g.geometry.Covers bit) := by
    intro bit
    rw [Nat.testBit_and, hf.testBit_bitmask hwidth, hg.testBit_bitmask hwidth, Bool.decide_and]
  unfold overlaps
  rw [bne_eq_false_iff_eq]
  constructor
  · intro h bit hbit
    have hbit := (hcommon bit).trans (decide_eq_true hbit.symm)
    rw [h, Nat.zero_testBit] at hbit
    cases hbit
  · intro h
    refine Nat.eq_of_testBit_eq fun bit => ?_
    rw [hcommon, Nat.zero_testBit]
    exact decide_eq_false fun hbit => h bit hbit.symm

lemma checkDisjoint_eq_ok_iff {path : String} {earlier fields : List (String × FieldDetail)} :
    checkDisjoint path earlier fields = .ok () ↔
      (∀ f ∈ fields, ∀ g ∈ earlier, f.2.overlaps g.2 = false) ∧
        fields.Pairwise fun g f => f.2.overlaps g.2 = false := by
  induction fields generalizing earlier with
  | nil => simp [checkDisjoint]
  | cons field rest ih =>
    obtain ⟨name, f⟩ := field
    rw [checkDisjoint]
    cases hfind : earlier.find? fun g => f.overlaps g.2 with
    | some g =>
      have hoverlap := List.find?_some hfind
      have hmem := List.mem_of_find?_eq_some hfind
      simp only [reduceCtorEq, false_iff, not_and]
      intro h
      rw [h (name, f) List.mem_cons_self g hmem] at hoverlap
      cases hoverlap
    | none =>
      have hnone : ∀ g ∈ earlier, f.overlaps g.2 = false := by simpa using hfind
      simp only [ih, List.mem_append, List.mem_cons, List.pairwise_cons, or_imp, forall_and,
        forall_eq]
      tauto

/-- The fields among the nodes of a register. -/
def Node.fieldsAmong (nodes : List Node) : List FieldDetail := nodes.filterMap (·.detail.field?)

/-- A register is accepted when it has fields and no bit belongs to two of them. -/
lemma checkFields_eq_ok_iff {path : String} {nodes : List Node} {width : ℕ}
    (hfields : ∀ f ∈ Node.fieldsAmong nodes, f.geometry.Within width)
    (hwidth : width ≤ maxValueWidth) :
    checkFields path nodes = .ok () ↔ (Node.fieldsAmong nodes).map FieldDetail.geometry ≠ [] ∧
      ((Node.fieldsAmong nodes).map FieldDetail.geometry).Pairwise Geometry.Apart := by
  have hnamed : Node.fieldsAmong nodes = (nodes.filterMap fun n =>
      n.detail.field?.map fun f => (n.instName, f)).map Prod.snd := by
    rw [Node.fieldsAmong, List.map_filterMap]
    refine List.filterMap_congr fun n _ => ?_
    rw [Option.map_map]
    exact Option.map_id'.symm
  have hpairs : (Node.fieldsAmong nodes).Pairwise (fun g f => f.overlaps g = false) ↔
      ((Node.fieldsAmong nodes).map FieldDetail.geometry).Pairwise Geometry.Apart := by
    rw [List.pairwise_map]
    exact List.Pairwise.iff_of_mem fun hg hf =>
      FieldDetail.overlaps_eq_false_iff (hfields _ hf) (hfields _ hg) hwidth
  rw [← hpairs, ne_eq, List.map_eq_nil_iff, hnamed, List.pairwise_map, List.map_eq_nil_iff,
    ← List.isEmpty_iff]
  unfold checkFields
  dsimp only
  split
  · next hnone => simp [hnone]
  · next hsome =>
    rw [checkDisjoint_eq_ok_iff]
    simp [hsome]

namespace Attributes

variable {path : String} {register : Option RegisterDetail} {a : Attributes} {c : Component}
  {r : RegisterDetail} {width msb lsb : ℕ}

/-- What is a register for its children was described as one. -/
lemma kind_of_register? (h : a.toComponent path register = .ok c)
    (hr : c.detail.register? = some r) : a.kind = .register := by
  rw [← kind_of_toComponent h, Component.kind]
  cases hdetail : c.detail <;> rw [hdetail] at hr <;> first | rfl | cases hr

lemma registerFits_of_toComponent (h : a.toComponent path register = .ok c)
    (hkind : a.kind = .register) : ∃ r, c.detail.register? = some r ∧ a.RegisterFits r.width := by
  have hdetail := toDetail_of_toComponent h
  rw [toDetail, hkind] at hdetail
  obtain ⟨r, hr, heq⟩ := map_eq_ok.1 hdetail
  exact ⟨r, heq ▸ rfl, (toRegister_eq_ok_iff_registerFits.1 hr).1⟩

lemma width_le_of_toComponent (h : a.toComponent path register = .ok c) :
    ∀ r, c.detail.register? = some r → r.width ≤ maxValueWidth := by
  intro r hr
  obtain ⟨r', hr', hfits⟩ := registerFits_of_toComponent h (kind_of_register? h hr)
  obtain rfl := Option.some.inj (hr.symm.trans hr')
  exact hfits.width_size.2.2

/-- The position between the ends that the attributes name. -/
def position (a : Attributes) : Geometry :=
  let msb := a.msb.getD 0
  let lsb := a.lsb.getD 0
  ⟨min msb lsb, span (min msb lsb) (max msb lsb), decide (msb < lsb)⟩

lemma position_eq_of_toField {register : Option RegisterDetail} {f : FieldDetail}
    (h : a.toField path register = .ok f) : f.geometry = a.position := by
  obtain ⟨msb, lsb, g, hmsb, hlsb, hg, -, -, -, rfl⟩ := toField_eq_ok_iff.1 h
  rw [(Geometry.ofMsbLsb_eq_ok_iff.1 hg).2, position, hmsb, hlsb]
  rfl

lemma FieldFits.covers_position_iff (h : a.FieldFits width msb lsb) (bit : ℕ) :
    a.position.Covers bit ↔ a.Covers bit := by
  have hhigh : min msb lsb + span (min msb lsb) (max msb lsb) - 1 = max msb lsb := by
    unfold span
    omega
  simp [Covers, Geometry.Covers, Geometry.high, position, h.msb_eq, h.lsb_eq, hhigh]

end Attributes

/-! ## Whole descriptions -/

/-- Fields are in registers alone. -/
lemma NodeKind.eq_register_of_mayContain_field {k : NodeKind} (h : k.mayContain .field = true) :
    k = .register := by
  cases k <;> first | rfl | cases h

namespace Description

/-- A field lies in the register around it. -/
def FitsIn (register : Option RegisterDetail) (d : Description) : Prop :=
  d.attributes.kind = .field →
    ∃ msb lsb, d.attributes.FieldFits (Attributes.fieldLimit register) msb lsb

lemma fieldsAmong_cons (d : Description) (ds : List Description) : fieldsAmong (d :: ds) =
    if d.attributes.kind = .field then d.attributes :: fieldsAmong ds else fieldsAmong ds := by
  rw [fieldsAmong, List.map_cons, List.filter_cons]
  simp [fieldsAmong]

lemma mem_fieldsAmong_iff {a : Attributes} {ds : List Description} :
    a ∈ fieldsAmong ds ↔ ∃ d ∈ ds, d.attributes = a ∧ a.kind = .field := by
  rw [fieldsAmong, List.mem_filter, List.mem_map, decide_eq_true_iff]
  exact ⟨fun ⟨⟨d, hd, ha⟩, hkind⟩ => ⟨d, hd, ha, hkind⟩,
    fun ⟨d, hd, ha, hkind⟩ => ⟨⟨d, hd, ha⟩, hkind⟩⟩

end Description

namespace Node

/-- The node was made of the description, as a part of this register if it is in one. -/
def MadeOf (register : Option RegisterDetail) (d : Description) (n : Node) : Prop :=
  ∃ path, d.attributes.toComponent path register = .ok n.component

lemma madeOf_ofDescription {above : String} {register : Option RegisterDetail} {id : ℕ}
    {d : Description} {n : Node} (h : ofDescription above register id d = .ok n) :
    MadeOf register d n := by
  obtain ⟨a, ds⟩ := d
  obtain ⟨component, nodes, hcomponent, -, -, rfl⟩ := ofDescription_eq_ok h
  exact ⟨_, hcomponent⟩

/-- The nodes are made of the descriptions one by one. -/
lemma forall₂_ofDescriptions {path : String} {parent : Detail} {id : ℕ} {ds : List Description}
    {ns : List Node} (h : ofDescriptions path parent id ds = .ok ns) :
    List.Forall₂ (MadeOf parent.register?) ds ns := by
  induction ds generalizing id ns with
  | nil =>
    cases h
    exact .nil
  | cons d rest ih =>
    obtain ⟨-, n, nodes, hn, hnodes, rfl⟩ := ofDescriptions_cons_eq_ok h
    exact .cons (madeOf_ofDescription hn) (ih hnodes)

lemma fieldsAmong_cons (n : Node) (ns : List Node) : fieldsAmong (n :: ns) =
    match n.detail.field? with
    | some f => f :: fieldsAmong ns
    | none => fieldsAmong ns := by
  rw [fieldsAmong, List.filterMap_cons]
  cases n.detail.field? <;> rfl

/-- The fields of a register were accepted in it, at the positions that their descriptions name. -/
lemma fieldsAmong_of_forall₂ {r : RegisterDetail} {ds : List Description} {ns : List Node}
    (h : List.Forall₂ (MadeOf (some r)) ds ns) :
    (fieldsAmong ns).map FieldDetail.geometry =
        (Description.fieldsAmong ds).map Attributes.position ∧
      ∀ f ∈ fieldsAmong ns, ∃ path a, Attributes.toField path (some r) a = .ok f := by
  induction h with
  | nil => exact ⟨rfl, nofun⟩
  | @cons d n ds ns hmade _ ih =>
    obtain ⟨path, hcomponent⟩ := hmade
    have hkind := Attributes.kind_of_toComponent hcomponent
    have hdetail := Attributes.toDetail_of_toComponent hcomponent
    rw [Description.fieldsAmong_cons, fieldsAmong_cons]
    by_cases hfield : d.attributes.kind = .field
    · rw [Attributes.toDetail, hfield] at hdetail
      obtain ⟨f, hf, hn⟩ := map_eq_ok.1 hdetail
      have hsome : n.detail.field? = some f := by
        rw [Node.detail, ← hn]
        rfl
      rw [if_pos hfield, hsome, List.map_cons, List.map_cons, ih.1,
        Attributes.position_eq_of_toField hf]
      refine ⟨rfl, fun g hg => ?_⟩
      rcases List.mem_cons.1 hg with rfl | hg
      · exact ⟨path, d.attributes, hf⟩
      · exact ih.2 g hg
    · have hnone : n.detail.field? = none := by
        rw [← hkind, Component.kind] at hfield
        unfold Node.detail
        cases hcase : n.component.detail with
        | field f =>
          rw [hcase] at hfield
          exact absurd rfl hfield
        | _ => rfl
      rw [if_neg hfield, hnone]
      exact ih

lemma checkFields_eq_ok_iff_fieldsFit {path : String} {r : RegisterDetail}
    {ds : List Description} {ns : List Node} (hns : List.Forall₂ (MadeOf (some r)) ds ns)
    (hwidth : r.width ≤ maxValueWidth)
    (hfits : ∀ a ∈ Description.fieldsAmong ds, ∃ msb lsb, a.FieldFits r.width msb lsb) :
    checkFields path ns = .ok () ↔
      Attributes.FieldsFit (Description.fieldsAmong ds) r.width := by
  obtain ⟨hpositions, haccepted⟩ := fieldsAmong_of_forall₂ hns
  have hwithin : ∀ f ∈ fieldsAmong ns, f.geometry.Within r.width := by
    intro f hf
    obtain ⟨_, _, hfield⟩ := haccepted f hf
    exact Attributes.within_of_toField hfield
  have hcovers : ∀ a ∈ Description.fieldsAmong ds, ∀ bit,
      a.position.Covers bit ↔ a.Covers bit := by
    intro a ha bit
    obtain ⟨msb, lsb, h⟩ := hfits a ha
    exact h.covers_position_iff bit
  have hpairs : ((Description.fieldsAmong ds).map Attributes.position).Pairwise Geometry.Apart ↔
      (Description.fieldsAmong ds).Pairwise fun a b => ∀ bit, ¬ (a.Covers bit ∧ b.Covers bit) := by
    rw [List.pairwise_map]
    refine List.Pairwise.iff_of_mem fun {a b} ha hb => forall_congr' fun bit => ?_
    rw [hcovers a ha, hcovers b hb]
  rw [checkFields_eq_ok_iff hwithin hwidth, hpositions, hpairs, ne_eq, List.map_eq_nil_iff]
  exact ⟨fun h => ⟨h.1, hfits, h.2⟩, fun h => ⟨h.ne_nil, h.disjoint⟩⟩

/-- A node is accepted when its attributes, its children and its fields are. -/
lemma exists_ofDescription_mk_iff {above : String} {register : Option RegisterDetail} {id : ℕ}
    {a : Attributes} {ds : List Description} :
    (∃ n, ofDescription above register id (.mk a ds) = .ok n) ↔ ∃ component nodes,
      a.toComponent (childPath above a.instName) register = .ok component ∧
      ofDescriptions (childPath above a.instName) component.detail (id + 1) ds = .ok nodes ∧
      (a.kind = .register → checkFields (childPath above a.instName) nodes = .ok ()) := by
  constructor
  · rintro ⟨n, hn⟩
    obtain ⟨component, nodes, hcomponent, hnodes, hfields, -⟩ := ofDescription_eq_ok hn
    exact ⟨component, nodes, hcomponent, hnodes, hfields⟩
  · rintro ⟨component, nodes, hcomponent, hnodes, hfields⟩
    refine ⟨.mk id component nodes, ?_⟩
    rw [ofDescription, bind_of_eq_ok hcomponent, bind_of_eq_ok hnodes]
    by_cases hkind : a.kind = .register
    · rw [if_pos hkind, bind_of_eq_ok (hfields hkind)]
      rfl
    · rw [if_neg hkind]
      rfl

/-- The first description and the others are accepted one after the other. -/
lemma exists_ofDescriptions_cons_iff {path : String} {parent : Detail} {id : ℕ} {d : Description}
    {ds : List Description} : (∃ ns, ofDescriptions path parent id (d :: ds) = .ok ns) ↔
      parent.kind.mayContain d.attributes.kind = true ∧ ∃ n,
        ofDescription path parent.register? id d = .ok n ∧
        ∃ ns, ofDescriptions path parent (id + n.size) ds = .ok ns := by
  constructor
  · rintro ⟨ns, hns⟩
    obtain ⟨hkind, n, nodes, hn, hnodes, -⟩ := ofDescriptions_cons_eq_ok hns
    exact ⟨hkind, n, hn, nodes, hnodes⟩
  · rintro ⟨hkind, n, hn, nodes, hnodes⟩
    refine ⟨n :: nodes, ?_⟩
    rw [ofDescriptions, if_pos hkind, bind_of_eq_ok hn, bind_of_eq_ok hnodes]
    rfl

/-- A description that the loader accepts in a node. -/
structure Accepts (parent : Detail) (d : Description) : Prop where
  mayContain : parent.kind.mayContain d.attributes.kind = true
  wellFormed : d.WellFormed
  fitsIn : d.FitsIn parent.register?

section Steps

variable {path : String} {register : Option RegisterDetail} {a : Attributes} {c : Component}
  {ds : List Description} {r : RegisterDetail}

/-- A register is as wide as its fields expect. -/
lemma fieldsFit_of_wellFormed (hcomponent : a.toComponent path register = .ok c)
    (hr : c.detail.register? = some r) (hwell : (Description.mk a ds).WellFormed) :
    Attributes.FieldsFit (Description.fieldsAmong ds) r.width := by
  cases hwell with
  | mk _ _ hregister _ _ =>
  have hkind := Attributes.kind_of_register? hcomponent hr
  obtain ⟨r', hr', hfits⟩ := Attributes.registerFits_of_toComponent hcomponent hkind
  obtain ⟨width, hfits', hfields⟩ := hregister hkind
  obtain rfl := Option.some.inj (hr.symm.trans hr')
  obtain rfl := Option.some.inj (hfits.width_eq.symm.trans hfits'.width_eq)
  exact hfields

/-- The children of a well-formed node are accepted in it. -/
lemma accepts_of_wellFormed (hcomponent : a.toComponent path register = .ok c)
    (hwell : (Description.mk a ds).WellFormed) : ∀ d ∈ ds, Accepts c.detail d := by
  intro d hd
  have hfields := fun r hr => fieldsFit_of_wellFormed (r := r) hcomponent hr hwell
  cases hwell with
  | mk _ hchildren _ _ hinner =>
  have hcontain := hchildren d hd
  refine ⟨?_, hinner d hd, fun hkindd => ?_⟩
  · rw [← Attributes.kind_of_toComponent hcomponent] at hcontain
    exact hcontain
  · rw [hkindd] at hcontain
    have hkind := NodeKind.eq_register_of_mayContain_field hcontain
    obtain ⟨r, hr, -⟩ := Attributes.registerFits_of_toComponent hcomponent hkind
    rw [hr]
    exact (hfields r hr).fits _ (Description.mem_fieldsAmong_iff.2 ⟨d, hd, rfl, hkindd⟩)

/-- Of children that are accepted, the fields are checked against one another. -/
lemma checkFields_eq_ok_iff_of_accepts {path' : String} {id : ℕ} {ns : List Node}
    (hcomponent : a.toComponent path register = .ok c) (hr : c.detail.register? = some r)
    (hns : ofDescriptions path' c.detail id ds = .ok ns) (hds : ∀ d ∈ ds, Accepts c.detail d) :
    checkFields path' ns = .ok () ↔
      Attributes.FieldsFit (Description.fieldsAmong ds) r.width := by
  have hforall := forall₂_ofDescriptions hns
  rw [hr] at hforall
  refine checkFields_eq_ok_iff_fieldsFit hforall
    (Attributes.width_le_of_toComponent hcomponent r hr) fun b hb => ?_
  obtain ⟨d, hd, rfl, hkind⟩ := Description.mem_fieldsAmong_iff.1 hb
  have hfits := (hds d hd).fitsIn hkind
  rwa [hr] at hfits

end Steps

mutual

/-- The loader accepts those descriptions that are well-formed and, if they are fields, fit the
register around them. -/
theorem exists_ofDescription_iff (above : String) {register : Option RegisterDetail} (id : ℕ)
    (hwidth : ∀ r, register = some r → r.width ≤ maxValueWidth) :
    ∀ {d : Description}, d.HoldsWords →
      ((∃ n, ofDescription above register id d = .ok n) ↔ d.WellFormed ∧ d.FitsIn register)
  | .mk a ds, .mk hwords hinner => by
    have hdetail := Attributes.exists_toDetail_iff (childPath above a.instName) hwords hwidth
    rw [exists_ofDescription_mk_iff]
    constructor
    · rintro ⟨component, nodes, hcomponent, hnodes, hfields⟩
      obtain ⟨harray, detail, hmade, -⟩ := Attributes.toComponent_eq_ok_iff.1 hcomponent
      obtain ⟨-, hfield, hmemory⟩ := hdetail.1 ⟨detail, hmade⟩
      have hds := (exists_ofDescriptions_iff _ _ (Attributes.width_le_of_toComponent hcomponent)
        hinner).1 ⟨nodes, hnodes⟩
      refine ⟨.mk harray (fun d hd => ?_) (fun hkind => ?_) hmemory
        fun d hd => (hds d hd).wellFormed, hfield⟩
      · rw [← Attributes.kind_of_toComponent hcomponent]
        exact (hds d hd).mayContain
      · obtain ⟨r, hr, hfits⟩ := Attributes.registerFits_of_toComponent hcomponent hkind
        exact ⟨r.width, hfits,
          (checkFields_eq_ok_iff_of_accepts hcomponent hr hnodes hds).1 (hfields hkind)⟩
    · rintro ⟨hwell, hfield⟩
      obtain ⟨detail, hmade⟩ : ∃ detail,
          a.toDetail (childPath above a.instName) register = .ok detail := by
        cases hwell with
        | mk _ _ hregister hmemory _ =>
        exact hdetail.2 ⟨fun hkind => (hregister hkind).imp fun _ h => h.1, hfield, hmemory⟩
      have hcomponent := Attributes.toComponent_eq_ok_iff.2
        ⟨by cases hwell; assumption, detail, hmade, rfl⟩
      have hds := accepts_of_wellFormed hcomponent hwell
      obtain ⟨nodes, hnodes⟩ := (exists_ofDescriptions_iff _ _
        (Attributes.width_le_of_toComponent hcomponent) hinner).2 hds
      refine ⟨_, nodes, hcomponent, hnodes, fun hkind => ?_⟩
      obtain ⟨r, hr, -⟩ := Attributes.registerFits_of_toComponent hcomponent hkind
      exact (checkFields_eq_ok_iff_of_accepts hcomponent hr hnodes hds).2
        (fieldsFit_of_wellFormed hcomponent hr hwell)

theorem exists_ofDescriptions_iff (path : String) {parent : Detail} (id : ℕ)
    (hwidth : ∀ r, parent.register? = some r → r.width ≤ maxValueWidth) :
    ∀ {ds : List Description}, (∀ d ∈ ds, d.HoldsWords) →
      ((∃ ns, ofDescriptions path parent id ds = .ok ns) ↔ ∀ d ∈ ds, Accepts parent d)
  | [], _ => ⟨fun _ => nofun, fun _ => ⟨[], rfl⟩⟩
  | d :: ds, hds => by
    have hhead := exists_ofDescription_iff path id hwidth (hds d List.mem_cons_self)
    have htail := fun id => exists_ofDescriptions_iff path id hwidth
      fun d hd => hds d (List.mem_cons_of_mem _ hd)
    rw [exists_ofDescriptions_cons_iff, List.forall_mem_cons]
    constructor
    · rintro ⟨hkind, n, hn, hns⟩
      obtain ⟨hwell, hfits⟩ := hhead.1 ⟨n, hn⟩
      exact ⟨⟨hkind, hwell, hfits⟩, (htail _).1 hns⟩
    · rintro ⟨⟨hkind, hwell, hfits⟩, hrest⟩
      obtain ⟨n, hn⟩ := hhead.2 ⟨hwell, hfits⟩
      exact ⟨hkind, n, hn, (htail _).2 hrest⟩

end

end Node

end RegisterMap
