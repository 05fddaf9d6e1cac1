import Mathlib
import RegisterMap.Proofs.Bits.Words
import RegisterMap.Proofs.Field.Codec
import RegisterMap.Proofs.Results
import RegisterMap.Tree.Loading

/-!
# Sizes of loaded nodes

What the checks of a description say about the numbers of an accepted node.
-/

namespace RegisterMap

/-- The sizes of a memory that passes the checks: there are entries, and every entry is made of
whole words that one access can move. -/
structure MemoryDetail.Admitted (m : MemoryDetail) : Prop where
  entries_pos : 0 < m.entries
  width_pos : 0 < m.width
  width_le : m.width ≤ maxValueWidth
  accessWidth_pos : 0 < m.accessWidth
  accessWidth_le : m.accessWidth ≤ maxWordWidth
  accessWidth_dvd : m.accessWidth ∣ m.width

/-- What a memory needs, in the loader's terms. -/
lemma Attributes.toMemory_eq_ok_iff {path : String} {a : Attributes} {m : MemoryDetail} :
    a.toMemory path = .ok m ↔ a.memoryEntries = some m.entries ∧ a.memoryWidth = some m.width ∧
      m.accessWidth = a.accessWidth.getD (min m.width maxWordWidth) ∧
      m.access = a.access.getD .readWrite ∧ (8 ≤ m.width ∧ m.width ≤ maxValueWidth) ∧
      (8 ≤ m.accessWidth ∧ m.accessWidth ≤ maxWordWidth ∧ m.width % m.accessWidth = 0) ∧
      m.entries ≠ 0 := by
  obtain ⟨entries, width, accessWidth, access⟩ := m
  unfold toMemory
  cases a.memoryEntries with
  | none => simp
  | some entries' =>
    cases a.memoryWidth with
    | none => simp
    | some width' =>
      simp only [bind, Except.bind, pure, Except.pure, throw, throwThe, MonadExceptOf.throw]
      constructor
      · intro h
        split at h
        · next hwidth =>
          split at h
          · next haccess =>
            obtain ⟨hentries, h⟩ := ite_error_eq_ok.1 h
            cases h
            exact ⟨rfl, rfl, rfl, rfl, hwidth, haccess, hentries⟩
          · cases h
        · cases h
      · rintro ⟨hentries, hwidth, rfl, rfl, hbounds, haccess, hne⟩
        cases hentries
        cases hwidth
        rw [if_pos hbounds, if_pos haccess, if_neg hne]

theorem Attributes.admitted_of_toMemory {path : String} {a : Attributes} {m : MemoryDetail}
    (h : a.toMemory path = .ok m) : m.Admitted := by
  obtain ⟨-, -, -, -, hwidth, haccess, hentries⟩ := toMemory_eq_ok_iff.1 h
  exact ⟨Nat.pos_of_ne_zero hentries, by omega, hwidth.2, by omega, haccess.2.1,
    Nat.dvd_of_mod_eq_zero haccess.2.2⟩

/-- The sizes of a register that passes the checks: it is made of whole words that one access can
move. -/
structure RegisterDetail.Admitted (r : RegisterDetail) : Prop where
  width_pos : 0 < r.width
  width_le : r.width ≤ maxValueWidth
  accessWidth_pos : 0 < r.accessWidth
  accessWidth_le : r.accessWidth ≤ maxWordWidth
  accessWidth_dvd : r.accessWidth ∣ r.width

lemma isWidth_iff {width max : ℕ} :
    isWidth width max = true ↔ 2 ^ width.log2 = width ∧ 8 ≤ width ∧ width ≤ max := by
  simp [isWidth, valueCount, and_assoc]

/-- A register that passes the checks takes a power of two of whole bytes, and so does an access of
it, which is no wider. -/
structure RegisterDetail.PowersOfTwo (r : RegisterDetail) : Prop where
  width : isWidth r.width maxValueWidth = true
  accessWidth : isWidth r.accessWidth maxWordWidth = true
  accessWidth_le_width : r.accessWidth ≤ r.width

/-- What a register needs, in the loader's terms. -/
lemma Attributes.toRegister_eq_ok_iff {path : String} {a : Attributes} {r : RegisterDetail} :
    a.toRegister path = .ok r ↔ a.registerWidth = some r.width ∧
      r.accessWidth = a.accessWidth.getD (min r.width maxWordWidth) ∧ r.PowersOfTwo := by
  obtain ⟨width, accessWidth⟩ := r
  unfold toRegister
  cases a.registerWidth with
  | none => simp
  | some width' =>
    simp only [bind, Except.bind, pure, Except.pure, throw, throwThe, MonadExceptOf.throw]
    constructor
    · intro h
      split at h
      · next hsize =>
        split at h
        · next haccess =>
          cases h
          rw [Bool.and_eq_true, decide_eq_true_iff] at haccess
          exact ⟨rfl, rfl, hsize, haccess.1, haccess.2⟩
        · cases h
      · cases h
    · rintro ⟨hwidth, rfl, hsize, haccess, hle⟩
      cases hwidth
      rw [if_pos hsize, if_pos (by rw [haccess, decide_eq_true hle, Bool.and_self])]

theorem Attributes.powersOfTwo_of_toRegister {path : String} {a : Attributes} {r : RegisterDetail}
    (h : a.toRegister path = .ok r) : r.PowersOfTwo :=
  (toRegister_eq_ok_iff.1 h).2.2

/-- Of two powers of two the smaller one divides the larger one. -/
lemma dvd_of_isWidth {narrow wide max max' : ℕ} (hnarrow : isWidth narrow max = true)
    (hwide : isWidth wide max' = true) (hle : narrow ≤ wide) : narrow ∣ wide := by
  obtain ⟨hpower, -, -⟩ := isWidth_iff.1 hnarrow
  obtain ⟨hpower', -, -⟩ := isWidth_iff.1 hwide
  have hexponent : narrow.log2 ≤ wide.log2 := by
    rw [← Nat.pow_le_pow_iff_right (by decide : 1 < 2), hpower, hpower']
    exact hle
  have hdvd := Nat.pow_dvd_pow 2 hexponent
  rwa [hpower, hpower'] at hdvd

lemma RegisterDetail.PowersOfTwo.admitted {r : RegisterDetail} (h : r.PowersOfTwo) :
    r.Admitted := by
  obtain ⟨-, hwidth, hwidthLe⟩ := isWidth_iff.1 h.width
  obtain ⟨-, haccess, haccessLe⟩ := isWidth_iff.1 h.accessWidth
  exact ⟨by omega, hwidthLe, by omega, haccessLe,
    dvd_of_isWidth h.accessWidth h.width h.accessWidth_le_width⟩

theorem Attributes.admitted_of_toRegister {path : String} {a : Attributes} {r : RegisterDetail}
    (h : a.toRegister path = .ok r) : r.Admitted :=
  (powersOfTwo_of_toRegister h).admitted

/-- A power of two of whole bytes takes no more room than its bits need. -/
lemma entryBytes_of_isWidth {width max : ℕ} (h : isWidth width max = true) :
    8 * entryBytes width = width := by
  obtain ⟨hpower, hbyte, -⟩ := isWidth_iff.1 h
  have hlog : 3 ≤ width.log2 := (Nat.le_log2 (by omega)).2 hbyte
  obtain ⟨n, hn⟩ := Nat.exists_eq_add_of_le hlog
  have hwidth : width = 8 * 2 ^ n := by
    rw [← hpower, hn, Nat.pow_add]
  obtain ⟨k, hk, hlow, hhigh⟩ := exists_entryBytes_eq width (by omega)
  have hbytes : (width + 7) / 8 = 2 ^ n := by omega
  rw [hbytes] at hlow hhigh
  -- the room lies between the bytes and twice the bytes, and all three are powers of two
  have hle : n ≤ k := (Nat.pow_le_pow_iff_right (by decide : 1 < 2)).1 hlow
  have hlt : k < n + 1 := by
    rw [← Nat.pow_lt_pow_iff_right (by decide : 1 < 2), Nat.pow_succ]
    omega
  have hequal : k = n := by omega
  rw [hk, hequal, hwidth]

/-- The words of a register take the room of its bytes. -/
lemma RegisterDetail.PowersOfTwo.room_eq {r : RegisterDetail} (h : r.PowersOfTwo) :
    r.width / r.accessWidth * entryBytes r.accessWidth = r.width / 8 := by
  have hbytes := entryBytes_of_isWidth h.accessWidth
  have hmul := Nat.div_mul_cancel h.admitted.accessWidth_dvd
  have height : 8 * (r.width / r.accessWidth * entryBytes r.accessWidth) = r.width := by
    calc 8 * (r.width / r.accessWidth * entryBytes r.accessWidth)
        = r.width / r.accessWidth * (8 * entryBytes r.accessWidth) := by ring
      _ = r.width := by rw [hbytes, hmul]
  omega

/-- What a field needs, in the loader's terms. -/
lemma Attributes.toField_eq_ok_iff {path : String} {register : Option RegisterDetail}
    {a : Attributes} {f : FieldDetail} : a.toField path register = .ok f ↔
    ∃ msb lsb g, a.msb = some msb ∧ a.lsb = some lsb ∧ Geometry.ofMsbLsb msb lsb = .ok g ∧
      (∀ r, register = some r → g.high < r.width) ∧
      (∀ value, a.reset = some value → value ≤ wordMask g.width) ∧
      (∀ e, a.encoding = some e →
        ∀ entry ∈ e.enumeration.entries, entry.value ≤ wordMask g.width) ∧
      ⟨g, a.access.getD .readWrite, a.hardwareWritable.getD true, a.reset, a.encoding⟩ = f := by
  unfold toField
  cases hmsb : a.msb with
  | none => simp
  | some msb =>
    cases hlsb : a.lsb with
    | none => simp
    | some lsb =>
      cases hg : Geometry.ofMsbLsb msb lsb with
      | error e => simp [Except.mapError, bind, Except.bind, hg]
      | ok g =>
        simp only [Except.mapError, bind, Except.bind, pure, Except.pure, throw, throwThe,
          MonadExceptOf.throw, hg]
        -- an entry that is too large is found exactly when there is one
        have hentries : ∀ entries : List EnumEntry,
            entries.find? (fun entry => decide (wordMask g.width < entry.value)) = none ↔
              ∀ entry ∈ entries, entry.value ≤ wordMask g.width := by
          intro entries
          simp [List.find?_eq_none]
        have hmade : ∀ P : Geometry → Prop, (∃ m l h, some msb = some m ∧ some lsb = some l ∧
            Geometry.ofMsbLsb m l = .ok h ∧ P h) ↔ P g := by
          intro P
          simp [hg]
        rw [hmade fun h => (∀ r, register = some r → h.high < r.width) ∧
          (∀ value, a.reset = some value → value ≤ wordMask h.width) ∧
          (∀ e, a.encoding = some e →
            ∀ entry ∈ e.enumeration.entries, entry.value ≤ wordMask h.width) ∧
          ⟨h, a.access.getD .readWrite, a.hardwareWritable.getD true, a.reset, a.encoding⟩ = f]
        -- one case for each of the attributes that may be left out
        rcases register with _ | r
        all_goals rcases a.reset with _ | reset
        all_goals rcases a.encoding with _ | e
        all_goals try simp only [Option.some.injEq, forall_eq', ← hentries]
        all_goals try rcases e.enumeration.entries.find? _ with _ | entry
        all_goals simp [ite_error_eq_ok]

/-- The position of an accepted field was made of its ends, and in a register it ends below the
width. -/
lemma Attributes.geometry_of_toField {path : String} {register : Option RegisterDetail}
    {a : Attributes} {f : FieldDetail} (h : a.toField path register = .ok f) :
    (∃ msb lsb, Geometry.ofMsbLsb msb lsb = .ok f.geometry) ∧
      ∀ r, register = some r → f.geometry.high < r.width := by
  obtain ⟨msb, lsb, g, -, -, hmade, hhigh, -, -, rfl⟩ := toField_eq_ok_iff.1 h
  exact ⟨⟨msb, lsb, hmade⟩, hhigh⟩

/-- A field that is accepted in a register lies in it. -/
theorem Attributes.within_of_toField {path : String} {a : Attributes} {r : RegisterDetail}
    {f : FieldDetail} (h : a.toField path (some r) = .ok f) : f.geometry.Within r.width := by
  obtain ⟨⟨msb, lsb, hmade⟩, hhigh⟩ := geometry_of_toField h
  exact ⟨Geometry.width_pos_of_ofMsbLsb hmade, hhigh r rfl⟩

end RegisterMap
