import Mathlib
import RegisterMap.Proofs.Field.Codec
import RegisterMap.Proofs.Tree.Order
import RegisterMap.Proofs.Tree.Registers

/-!
# Field values among the bits of a register

A member of an enumeration is encoded wherever its entry stands, but the bits hold no more than its
value, and decoding answers with the first entry that has this value.  The entries of a loaded field
may give several names to one value.  Encoding therefore undoes decoding, while decoding undoes
encoding up to the name that the value has first (`ReadAs`): integers and members under their first
name are read back, other members turn into the one that comes first.

Both directions hold for every field in a register of a loaded tree (`Loaded.roundTrips`).  Where no
value has two names nothing is lost (`RoundTrips.decode_of_nodup`).
-/

namespace RegisterMap

/-! ## First names -/

namespace Enumeration

variable {e : Enumeration} {m : EnumMember} {entry : EnumEntry} {value : ℕ} {name other : String}

/-- The first entry with the value has the name. -/
def FirstName (e : Enumeration) (value : ℕ) (name : String) : Prop :=
  ∃ before entry after, e.entries = before ++ entry :: after ∧
    entry.value = value ∧ entry.name = name ∧ ∀ earlier ∈ before, earlier.value ≠ value

/-- A value is looked up by its first name. -/
lemma memberOf?_eq_some_iff : e.memberOf? value = some m ↔
    m.enumeration = e.name ∧ m.value = value ∧ e.FirstName value m.name := by
  unfold memberOf?
  rw [Option.map_eq_some_iff]
  constructor
  · rintro ⟨entry, hfind, rfl⟩
    obtain ⟨hvalue, before, after, hsplit, hbefore⟩ := List.find?_eq_some_iff_append.1 hfind
    have hvalue : entry.value = value := beq_iff_eq.1 hvalue
    exact ⟨rfl, hvalue, before, entry, after, hsplit, hvalue, rfl,
      fun earlier hearlier => by simpa using hbefore earlier hearlier⟩
  · rintro ⟨hname, hvalue, before, entry, after, hsplit, hentry, hfirst, hbefore⟩
    refine ⟨entry, List.find?_eq_some_iff_append.2 ⟨beq_iff_eq.2 hentry, before, after, hsplit,
      fun earlier hearlier => by simpa using hbefore earlier hearlier⟩, ?_⟩
    obtain ⟨enumeration, name, value⟩ := m
    dsimp only at hname hvalue hfirst
    rw [toMember, hname, hvalue, hentry, hfirst]

/-- A value has one first name. -/
lemma FirstName.unique (h : e.FirstName value name) (h' : e.FirstName value other) :
    name = other := by
  have hname : e.memberOf? value = some ⟨e.name, name, value⟩ :=
    memberOf?_eq_some_iff.2 ⟨rfl, rfl, h⟩
  have hother : e.memberOf? value = some ⟨e.name, other, value⟩ :=
    memberOf?_eq_some_iff.2 ⟨rfl, rfl, h'⟩
  exact congrArg EnumMember.name (Option.some.inj (hname.symm.trans hother))

lemma contains_iff : e.contains m = true ↔
    m.enumeration = e.name ∧ ∃ entry ∈ e.entries, entry.name = m.name ∧ entry.value = m.value := by
  simp [contains]

/-- Every value of an enumeration has a first name. -/
lemma exists_firstName (h : entry ∈ e.entries) : ∃ name, e.FirstName entry.value name := by
  have hfound : (e.entries.find? (·.value == entry.value)).isSome = true :=
    List.find?_isSome.2 ⟨entry, h, beq_self_eq_true _⟩
  obtain ⟨first, hfirst⟩ := Option.isSome_iff_exists.1 hfound
  obtain ⟨-, -, hname⟩ := memberOf?_eq_some_iff.1
    (show e.memberOf? entry.value = some (e.toMember first) by rw [memberOf?, hfirst]; rfl)
  exact ⟨_, hname⟩

/-- The first name of a value is a name of it. -/
lemma FirstName.exists_mem (h : e.FirstName value name) :
    ∃ entry ∈ e.entries, entry.name = name ∧ entry.value = value := by
  obtain ⟨before, entry, after, hsplit, hvalue, hname, -⟩ := h
  exact ⟨entry, by rw [hsplit]; simp, hname, hvalue⟩

end Enumeration

namespace FieldLayout

variable {f : FieldLayout} {v v' : FieldValue} {raw bits width : ℕ}

/-! ## Both directions -/

/-- What a value of the field is read back as. -/
inductive ReadAs (f : FieldLayout) : FieldValue → FieldValue → Prop
  | int (n : ℕ) (h : f.encoding = none) : f.ReadAs (.int n) (.int n)
  /-- The value of the member has its name first. -/
  | itself {e : Enumeration} {m : EnumMember} (h : f.encoding = some e)
      (hfirst : e.FirstName m.value m.name) : f.ReadAs (.member m) (.member m)
  /-- The value of the member has another name first. -/
  | renamed {e : Enumeration} {m : EnumMember} {name : String} (h : f.encoding = some e)
      (hfirst : e.FirstName m.value name) (hname : name ≠ m.name) :
      f.ReadAs (.member m) (.member { m with name })

/-- A value is read back in one way. -/
lemma ReadAs.unique {first second : FieldValue} (h : f.ReadAs v first) (h' : f.ReadAs v second) :
    first = second := by
  cases h with
  | int => cases h'; rfl
  | itself h hfirst =>
    cases h' with
    | itself => rfl
    | renamed h' hfirst' hname =>
      cases h.symm.trans h'
      exact absurd (hfirst'.unique hfirst) hname
  | renamed h hfirst hname =>
    cases h' with
    | itself h' hfirst' =>
      cases h.symm.trans h'
      exact absurd (hfirst.unique hfirst') hname
    | renamed h' hfirst' =>
      cases h.symm.trans h'
      rw [hfirst.unique hfirst']

/-- Encoding and decoding undo each other, up to the first names of values. -/
structure RoundTrips (f : FieldLayout) (width : ℕ) : Prop where
  /-- A value put among other bits of a register is read back under its first name. -/
  decode_merged : ∀ v bits, f.encode v = .ok bits → ∀ other ≤ valueMask width, ∃ v',
    f.decode ((other &&& f.geometry.inverseBitmask width) ||| bits) width = .ok v' ∧ f.ReadAs v v'
  /-- A value that was read and is put back gives the bits of the field. -/
  encode_decoded : ∀ raw v, f.decode raw width = .ok v →
    f.encode v = .ok (raw &&& f.geometry.bitmask)

lemma encode_eq_ok_iff : f.encode v = .ok bits ↔
    (∃ n, f.encoding = none ∧ v = .int n ∧ f.geometry.encode n = .ok bits) ∨
      ∃ e m, f.encoding = some e ∧ v = .member m ∧ e.contains m = true ∧
        f.geometry.encode m.value = .ok bits := by
  unfold encode
  rcases f.encoding with _ | e <;> rcases v with n | m
  case some.member => by_cases hmember : e.contains m = true <;> simp [hmember]
  all_goals simp

lemma decode_eq_ok_iff : f.decode raw width = .ok v ↔
    ∃ n, f.geometry.decode raw width = .ok n ∧
      ((f.encoding = none ∧ v = .int n) ∨
        ∃ e m, f.encoding = some e ∧ v = .member m ∧ e.memberOf? n = some m) := by
  unfold decode
  cases f.geometry.decode raw width with
  | error fault => simp [bind, Except.bind]
  | ok n =>
    rcases f.encoding with _ | e
    · simp [bind, Except.bind, pure, Except.pure, eq_comm]
    · cases hfound : e.memberOf? n with
      | none => simp [bind, Except.bind, throw, throwThe, MonadExceptOf.throw, hfound]
      | some m => simp [bind, Except.bind, pure, Except.pure, hfound, eq_comm]

/-- A field within its register loses no more than the later names of a value. -/
theorem roundTrips_of_within (h : f.geometry.Within width) (hwidth : width ≤ maxValueWidth) :
    f.RoundTrips width where
  decode_merged v bits hencode other hother := by
    obtain ⟨n, hplain, rfl, hbits⟩ | ⟨e, m, hnamed, rfl, hmember, hbits⟩ :=
      encode_eq_ok_iff.1 hencode
    · have hdecode := h.decode_merge hwidth hbits hother
      exact ⟨.int n, decode_eq_ok_iff.2 ⟨n, hdecode, .inl ⟨hplain, rfl⟩⟩, .int n hplain⟩
    · have hdecode := h.decode_merge hwidth hbits hother
      obtain ⟨hname, entry, hentry, -, hvalue⟩ := Enumeration.contains_iff.1 hmember
      obtain ⟨first, hfirst⟩ := Enumeration.exists_firstName hentry
      rw [hvalue] at hfirst
      have hfound : e.memberOf? m.value = some { m with name := first } :=
        Enumeration.memberOf?_eq_some_iff.2 ⟨hname, rfl, hfirst⟩
      refine ⟨.member { m with name := first },
        decode_eq_ok_iff.2 ⟨m.value, hdecode, .inr ⟨e, _, hnamed, rfl, hfound⟩⟩, ?_⟩
      by_cases hsame : first = m.name
      · subst hsame
        exact .itself hnamed hfirst
      · exact .renamed hnamed hfirst hsame
  encode_decoded raw v hdecode := by
    obtain ⟨n, hvalue, ⟨hplain, rfl⟩ | ⟨e, m, hnamed, rfl, hfound⟩⟩ := decode_eq_ok_iff.1 hdecode
    · exact encode_eq_ok_iff.2
        (.inl ⟨n, hplain, rfl, h.encode_of_decode hwidth hvalue⟩)
    · obtain ⟨hname, rfl, hfirst⟩ := Enumeration.memberOf?_eq_some_iff.1 hfound
      have hmember : e.contains m = true :=
        Enumeration.contains_iff.2 ⟨hname, hfirst.exists_mem⟩
      exact encode_eq_ok_iff.2
        (.inr ⟨e, m, hnamed, rfl, hmember, h.encode_of_decode hwidth hvalue⟩)

/-- Where no value has two names, every value is read back. -/
theorem RoundTrips.decode_of_nodup (h : f.RoundTrips width)
    (hdistinct : ∀ e, f.encoding = some e → (e.entries.map (·.value)).Nodup)
    (hencode : f.encode v = .ok bits) {other : ℕ} (hother : other ≤ valueMask width) :
    f.decode ((other &&& f.geometry.inverseBitmask width) ||| bits) width = .ok v := by
  obtain ⟨v', hdecode, hread⟩ := h.decode_merged v bits hencode other hother
  rw [hdecode]
  cases hread with
  | int => rfl
  | itself => rfl
  | @renamed e m name hnamed hfirst hname =>
    obtain ⟨_, _, hv, _⟩ | ⟨e', m', he', hm', hmember, -⟩ := encode_eq_ok_iff.1 hencode
    · cases hv
    cases hm'
    cases hnamed.symm.trans he'
    -- the entries of the member and of the first name are one
    obtain ⟨-, entry, hentry, hnameEntry, hvalueEntry⟩ := Enumeration.contains_iff.1 hmember
    obtain ⟨first, hmem, hnameFirst, hvalueFirst⟩ := hfirst.exists_mem
    have hsame : first = entry := List.inj_on_of_nodup_map (hdistinct e hnamed) hmem hentry
      (hvalueFirst.trans hvalueEntry.symm)
    exact absurd (hnameFirst.symm.trans ((congrArg EnumEntry.name hsame).trans hnameEntry)) hname

end FieldLayout

/-! ## Fields of a loaded tree -/

/-- The layout of a field under a name. -/
def FieldDetail.layout (f : FieldDetail) (name : String) : FieldLayout :=
  ⟨name, f.geometry, f.access, f.encoding.map (·.enumeration), f.reset⟩

namespace RegisterTree.Loaded

variable {t : RegisterTree} {p c : Place} {r : RegisterDetail} {f : FieldDetail}

/-- Every field in a register of a loaded tree loses no more than the later names of a value. -/
theorem roundTrips (ht : t.Loaded) (hp : p ∈ t.top.subtree) (hr : p.node.detail = .register r)
    (hc : c ∈ p.children) (hf : c.node.detail = .field f) :
    (f.layout c.node.instName).RoundTrips r.width := by
  have hholds := ht.holdsFields hp hr
  have hmem : f ∈ p.node.fields := by
    obtain ⟨n, hn, rfl⟩ := List.mem_map.1 hc
    exact List.mem_filterMap.2 ⟨n, hn, by rw [hf]; rfl⟩
  exact FieldLayout.roundTrips_of_within (hholds.within f hmem) hholds.sizes.width_le

end RegisterTree.Loaded

/-- A field of a mode that is on under two names. -/
def modeField : FieldDetail where
  geometry := ⟨4, 2, false⟩
  access := .readWrite
  hardwareWritable := true
  reset := none
  encoding := some ⟨.ofPairs "mode_e" [(0, "off"), (1, "on"), (1, "enabled")], none⟩

/-- A register with the field of the mode. -/
def modes : RegisterTree :=
  (Description.group .addressMap "top" 0 [.register "control" 0 [.mk
    { (default : Attributes) with
      kind := .field, instName := "mode", msb := some 5, lsb := some 4
      encoding := modeField.encoding } []]]).tree

/-- The register of the mode is found in the tree, and the field in the register. -/
lemma modes_parts : modes.Loaded ∧ ∃ p ∈ modes.top.subtree, p.node.detail = .register ⟨32, 32⟩ ∧
    ∃ c ∈ p.children, c.node.detail = .field modeField := by
  have hfields : ∀ c ∈ (modes.top.part 0).children, c.node.detail = .field modeField := by
    decide +kernel
  have hsome : (modes.top.part 0).children ≠ [] := by
    intro hnone
    have hlength : (modes.top.part 0).children.length = 1 := by decide +kernel
    rw [hnone] at hlength
    cases hlength
  obtain ⟨c, hc⟩ := List.exists_mem_of_ne_nil _ hsome
  exact ⟨Description.loaded_tree (by decide +kernel), _,
    Place.part_mem_subtree modes.top.mem_subtree_self 0, by decide +kernel, c, hc, hfields c hc⟩

/-- The field of the mode. -/
theorem mode_round_trips : modes.Loaded ∧ ∃ p ∈ modes.top.subtree,
    p.node.detail = .register ⟨32, 32⟩ ∧ ∃ c ∈ p.children, c.node.detail = .field modeField ∧
      (modeField.layout c.node.instName).RoundTrips 32 := by
  obtain ⟨ht, p, hp, hr, c, hc, hf⟩ := modes_parts
  exact ⟨ht, p, hp, hr, c, hc, hf, ht.roundTrips hp hr hc hf⟩

/-- A mode that is written under its later name is read under its first one. -/
theorem later_name_is_lost : modes.Loaded ∧ ∃ p ∈ modes.top.subtree,
    p.node.detail = .register ⟨32, 32⟩ ∧ ∃ c ∈ p.children, c.node.detail = .field modeField ∧
      (modeField.layout c.node.instName).encode (.member ⟨"mode_e", "enabled", 1⟩) = .ok 0x10 ∧
      (modeField.layout c.node.instName).decode
          ((0 &&& modeField.geometry.inverseBitmask 32) ||| 0x10) 32 =
        .ok (.member ⟨"mode_e", "on", 1⟩) := by
  obtain ⟨ht, p, hp, hr, c, hc, hf⟩ := modes_parts
  have hencode : modeField.geometry.encode 1 = .ok 0x10 := by decide
  have hdecode : modeField.geometry.decode
      ((0 &&& modeField.geometry.inverseBitmask 32) ||| 0x10) 32 = .ok 1 := by decide +kernel
  exact ⟨ht, p, hp, hr, c, hc, hf,
    FieldLayout.encode_eq_ok_iff.2 (.inr ⟨_, _, rfl, rfl, by decide +kernel, hencode⟩),
    FieldLayout.decode_eq_ok_iff.2 ⟨1, hdecode, .inr ⟨_, _, rfl, rfl, by decide +kernel⟩⟩⟩

end RegisterMap
