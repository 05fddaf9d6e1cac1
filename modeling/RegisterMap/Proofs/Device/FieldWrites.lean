import Mathlib
import RegisterMap.Proofs.Device.RegisterContents
import RegisterMap.Proofs.Results

/-!
# Field writes

A field write merges its arguments into what the register holds.  Bit by bit, the last argument
whose field covers the bit decides, and where no argument does, the bit stays (`Merges`); this leaves
no choice (`Merges.unique`).  The masks of the arguments are folded before the register is read, and
applying the result is the same as applying the arguments one after the other (`apply_andThen`).

`writeFields_merges` follows a field write that succeeds through the bus: one read of the whole
register unless none of its fields can be read, one write of the whole register with the merged
value, and nothing else.
-/

namespace RegisterMap

/-! ## Masks -/

namespace WriteMask

lemma testBit_apply (w : WriteMask) (base bit : ℕ) : (w.apply base).testBit bit =
    (base.testBit bit && (w.mask.testBit bit ^^ decide (bit < maxValueWidth)) ||
      w.value.testBit bit) := by
  rw [apply, Nat.testBit_or, testBit_clearBits]

lemma apply_empty {base : ℕ} (hbase : base ≤ valueMask maxValueWidth) : empty.apply base = base := by
  refine Nat.eq_of_testBit_eq fun bit => ?_
  rw [testBit_apply]
  by_cases hbit : bit < maxValueWidth
  · simp [empty, hbit]
  · simp [empty, testBit_of_le_valueMask hbase (Nat.le_of_not_lt hbit)]

/-- Contributions that were put together have the effect of one after the other. -/
theorem apply_andThen {first later : WriteMask} {base : ℕ}
    (hmask : later.mask ≤ valueMask maxValueWidth)
    (hfirst : first.apply base ≤ valueMask maxValueWidth) :
    (first.andThen later).apply base = later.apply (first.apply base) := by
  refine Nat.eq_of_testBit_eq fun bit => ?_
  rw [testBit_apply, testBit_apply, andThen, Nat.testBit_or, Nat.testBit_or, testBit_clearBits]
  by_cases hbit : bit < maxValueWidth
  · rw [testBit_apply]
    simp only [hbit, decide_true, Bool.xor_true]
    cases base.testBit bit <;> cases first.mask.testBit bit <;> cases later.mask.testBit bit <;>
      simp
  · -- beyond the widest value nothing is left of the base
    have hnone := testBit_of_le_valueMask hmask (Nat.le_of_not_lt hbit)
    have hout := testBit_of_le_valueMask hfirst (Nat.le_of_not_lt hbit)
    rw [hout, hnone]
    rw [testBit_apply] at hout
    simp only [hbit, decide_false, Bool.xor_false, Bool.or_eq_false_iff] at hout ⊢
    simp [hout.1]

end WriteMask

/-! ## Merging arguments -/

namespace RegisterLayout

/-- The field and the value of an argument, if the field covers a register bit. -/
def argumentOn (r : RegisterLayout) (bit : ℕ) (arg : String × FieldValue) :
    Option (FieldLayout × FieldValue) :=
  (r.field? arg.1).bind fun f => if f.geometry.Covers bit then some (f, arg.2) else none

/-- The last argument whose field covers a register bit, with that field. -/
def lastOn (r : RegisterLayout) (args : FieldValues) (bit : ℕ) : Option (FieldLayout × FieldValue) :=
  (args.filterMap (r.argumentOn bit)).getLast?

/-- `written` is `base` with the arguments in the place of their fields. -/
structure Merges (r : RegisterLayout) (args : FieldValues) (base written : ℕ) : Prop where
  /-- Of the arguments that cover a bit, the last one decides it. -/
  given : ∀ bit f value, r.lastOn args bit = some (f, value) →
    ∃ bits, f.encode value = .ok bits ∧ written.testBit bit = bits.testBit bit
  /-- All other bits stay. -/
  kept : ∀ bit, r.lastOn args bit = none → written.testBit bit = base.testBit bit

variable {r : RegisterLayout} {args args' : FieldValues} {arg : String × FieldValue}
  {base written written' : ℕ} {w : WriteMask}

lemma lastOn_append (bit : ℕ) :
    r.lastOn (args ++ args') bit = (r.lastOn args' bit).or (r.lastOn args bit) := by
  rw [lastOn, List.filterMap_append, List.getLast?_append]
  rfl

lemma lastOn_singleton (bit : ℕ) : r.lastOn [arg] bit = r.argumentOn bit arg := by
  rw [lastOn, List.filterMap_cons]
  cases r.argumentOn bit arg <;> rfl

/-- The field of an argument that decides a bit is a field of the register that covers it. -/
lemma covers_of_lastOn {bit : ℕ} {f : FieldLayout} {value : FieldValue}
    (h : r.lastOn args bit = some (f, value)) : f ∈ r.fields ∧ f.geometry.Covers bit := by
  obtain ⟨arg, -, harg⟩ := List.mem_filterMap.1 (List.mem_of_getLast? h)
  obtain ⟨g, hg, hcovers⟩ := Option.bind_eq_some_iff.1 harg
  split at hcovers
  · next hbit =>
    cases hcovers
    exact ⟨List.mem_of_find?_eq_some hg, hbit⟩
  · cases hcovers

lemma Merges.refl (r : RegisterLayout) (base : ℕ) : r.Merges [] base base :=
  ⟨(fun _ _ _ h => nomatch h), fun _ _ => rfl⟩

/-- Later arguments are merged into what the earlier ones left. -/
lemma Merges.append (h : r.Merges args base written) (h' : r.Merges args' written written') :
    r.Merges (args ++ args') base written' := by
  constructor
  · intro bit f value hlast
    rw [lastOn_append] at hlast
    cases hlater : r.lastOn args' bit with
    | some p =>
      rw [hlater, Option.some_or] at hlast
      exact h'.given bit f value (hlater.trans hlast)
    | none =>
      rw [hlater, Option.none_or] at hlast
      obtain ⟨bits, hencode, hbit⟩ := h.given bit f value hlast
      exact ⟨bits, hencode, (h'.kept bit hlater).trans hbit⟩
  · intro bit hlast
    rw [lastOn_append, Option.or_eq_none_iff] at hlast
    exact (h'.kept bit hlast.1).trans (h.kept bit hlast.2)

/-- The arguments and the base leave no choice. -/
theorem Merges.unique (h : r.Merges args base written) (h' : r.Merges args base written') :
    written = written' := by
  refine Nat.eq_of_testBit_eq fun bit => ?_
  cases hlast : r.lastOn args bit with
  | none => rw [h.kept bit hlast, h'.kept bit hlast]
  | some p =>
    obtain ⟨bits, hencode, hbit⟩ := h.given bit p.1 p.2 hlast
    obtain ⟨bits', hencode', hbit'⟩ := h'.given bit p.1 p.2 hlast
    have hsame : bits = bits' := Except.ok.inj (hencode.symm.trans hencode')
    rw [hbit, hbit', hsame]

/-- The merged value fits the register. -/
lemma Admitted.le_of_merges (h : r.Admitted) (hbase : base ≤ r.maxValue)
    (hmerges : r.Merges args base written) : written ≤ r.maxValue := by
  refine le_valueMask_of_testBit h.sizes.width_le fun bit hbit => ?_
  cases hlast : r.lastOn args bit with
  | none => rw [hmerges.kept bit hlast, testBit_of_le_valueMask hbase hbit]
  | some p =>
    obtain ⟨hmem, hcovers⟩ := covers_of_lastOn hlast
    exact absurd ((h.within _ hmem).lt_of_covers hcovers) (Nat.not_lt.2 hbit)

lemma Admitted.maxValue_le (h : r.Admitted) : r.maxValue ≤ valueMask maxValueWidth :=
  valueMask_mono h.sizes.width_le

/-- What an argument contributes: the mask of its field and its encoded value. -/
lemma contribution_eq_ok (h : r.contribution arg = .ok w) : ∃ f bits,
    r.field? arg.1 = some f ∧ f.encode arg.2 = .ok bits ∧ w = ⟨f.geometry.bitmask, bits⟩ := by
  obtain ⟨f, hfield, h⟩ := bind_eq_ok.1 h
  split at h
  · obtain ⟨bits, hencode, heq⟩ := bind_eq_ok.1 h
    refine ⟨f, bits, ?_, hencode, (Except.ok.inj heq).symm⟩
    unfold field at hfield
    split at hfield
    · next hfound => rw [hfound, Except.ok.inj hfield]
    · cases hfield
  · cases h

/-- One argument replaces the bits of its field. -/
lemma Admitted.merges_contribution (h : r.Admitted) (hbase : base ≤ r.maxValue)
    (hw : r.contribution arg = .ok w) : r.Merges [arg] base (w.apply base) := by
  obtain ⟨f, bits, hfield, hencode, rfl⟩ := contribution_eq_ok hw
  obtain ⟨n, hn⟩ := FieldLayout.exists_encode hencode
  have hwithin : f.geometry.Within r.width := h.within f (List.mem_of_find?_eq_some hfield)
  have hmask := hwithin.testBit_bitmask h.sizes.width_le
  have hbits := hwithin.testBit_encode h.sizes.width_le hn
  have hlast : ∀ bit, r.lastOn [arg] bit =
      if f.geometry.Covers bit then some (f, arg.2) else none := by
    intro bit
    rw [lastOn_singleton, argumentOn, hfield, Option.bind_some]
  constructor
  · intro bit g value hg
    rw [hlast] at hg
    split at hg
    · next hcovers =>
      cases hg
      have hless : bit < maxValueWidth :=
        lt_of_lt_of_le (hwithin.lt_of_covers hcovers) h.sizes.width_le
      refine ⟨bits, hencode, ?_⟩
      rw [WriteMask.testBit_apply, hmask]
      simp [hcovers, hless]
    · cases hg
  · intro bit hnone
    have hcovers : ¬ f.geometry.Covers bit := by
      intro hcovers
      rw [hlast, if_pos hcovers] at hnone
      cases hnone
    rw [WriteMask.testBit_apply, hmask, hbits]
    by_cases hbit : bit < maxValueWidth
    · simp [hcovers, hbit]
    · simp [hcovers, testBit_of_le_valueMask (hbase.trans h.maxValue_le) (Nat.le_of_not_lt hbit)]

lemma mask_le_of_contribution (hw : r.contribution arg = .ok w) :
    w.mask ≤ valueMask maxValueWidth := by
  obtain ⟨f, bits, hfield, -, rfl⟩ := contribution_eq_ok hw
  have hlt : f.geometry.bitmask < valueCount maxValueWidth := Nat.mod_lt _ (Nat.two_pow_pos _)
  simp only [valueMask, Nat.min_self]
  omega

/-- The arguments are merged one after the other, into what the ones before them left. -/
lemma Admitted.merges_foldlM (h : r.Admitted) {acc : WriteMask}
    (hacc : acc.apply base ≤ r.maxValue)
    (hw : args.foldlM (fun acc arg => acc.andThen <$> r.contribution arg) acc = .ok w) :
    r.Merges args (acc.apply base) (w.apply base) := by
  induction args generalizing acc with
  | nil =>
    rw [List.foldlM_nil] at hw
    rw [← Except.ok.inj hw]
    exact .refl r _
  | cons arg rest ih =>
    rw [List.foldlM_cons] at hw
    obtain ⟨acc', hacc', hrest⟩ := bind_eq_ok.1 hw
    obtain ⟨contributed, hcontribution, rfl⟩ := map_eq_ok.1 hacc'
    have hone := h.merges_contribution hacc hcontribution
    -- what the mask so far makes of the base is the base of this argument
    have hsplit := WriteMask.apply_andThen (mask_le_of_contribution hcontribution)
      (hacc.trans h.maxValue_le)
    rw [← hsplit] at hone
    exact hone.append (ih (h.le_of_merges hacc hone) hrest)

/-- What is prepared for a field write merges its arguments. -/
theorem Admitted.merges_of_prepareWrite (h : r.Admitted) (hbase : base ≤ r.maxValue)
    (hw : r.prepareWrite args = .ok w) : r.Merges args base (w.apply base) := by
  have hstart := WriteMask.apply_empty (hbase.trans h.maxValue_le)
  unfold prepareWrite at hw
  split at hw
  · cases hw
  · have hmerges : r.Merges args (WriteMask.empty.apply base) (w.apply base) :=
      h.merges_foldlM (hstart.symm ▸ hbase) hw
    rwa [hstart] at hmerges

end RegisterLayout

/-! ## Through the bus -/

namespace Register

open Blocking

variable {r : Register} {args : FieldValues} {p : WriteMask}

/-- The value that a field write starts from: what the register holds, or zero if it cannot be
read. -/
def baseIn (r : Register) (c : Contents) : ℕ := if r.layout.readable then r.layout.valueIn c else 0

/-- The calls of one field write. -/
def mergeCalls (r : Register) (written : ℕ) (block : Bool) : List Call :=
  (if r.layout.readable then r.readCalls block else []) ++ r.writeCalls written block

lemma baseIn_le (h : r.layout.Admitted) (c : Contents) : r.baseIn c ≤ r.layout.maxValue := by
  unfold baseIn
  split
  · exact h.valueIn_le c
  · exact Nat.zero_le _

/-- The first step of a field write, which gives the value that it starts from. -/
def readBase (r : Register) : Blocking Simulator ℕ :=
  if r.layout.readable then r.physicalRead else pure 0

lemma writeFields_eq (r : Register) (args : FieldValues) :
    r.writeFields args = (do
      let prepared ← Port.decide (r.layout.prepareWrite args)
      Port.decide (r.layout.checkComplete args)
      let base ← r.readBase
      r.physicalWrite (prepared.apply base) : Blocking Simulator Unit) := by
  unfold writeFields readBase
  cases r.layout.readable <;> rfl

lemma yields_readBase (h : r.layout.Admitted) (c : Contents) :
    Yields r.readBase c (r.baseIn c) c := by
  unfold readBase baseIn
  split
  · exact yields_physicalRead h c
  · exact .pure 0 c

lemma issues_readBase (h : r.layout.Admitted) (c : Contents) :
    Issues r.readBase c fun block => if r.layout.readable then r.readCalls block else [] := by
  unfold readBase
  split
  · exact issues_physicalRead h c
  · exact .pure 0 c

/-- A field write whose arguments are accepted stores the merged value. -/
theorem yields_writeFields (h : r.layout.Admitted) (hprepared : r.layout.prepareWrite args = .ok p)
    (hcomplete : r.layout.checkComplete args = .ok ()) (c : Contents) :
    Yields (r.writeFields args) c () (c.setAll (r.layout.stores (p.apply (r.baseIn c)))) := by
  have hfits := h.le_of_merges (baseIn_le h c) (h.merges_of_prepareWrite (baseIn_le h c) hprepared)
  rw [writeFields_eq]
  refine Yields.bind (.decide hprepared c) ?_
  refine Yields.bind (.decide hcomplete c) ?_
  exact Yields.bind (yields_readBase h c) (yields_physicalWrite h hfits c)

theorem issues_writeFields (h : r.layout.Admitted) (hprepared : r.layout.prepareWrite args = .ok p)
    (hcomplete : r.layout.checkComplete args = .ok ()) (c : Contents) :
    Issues (r.writeFields args) c (r.mergeCalls (p.apply (r.baseIn c))) := by
  have hfits := h.le_of_merges (baseIn_le h c) (h.merges_of_prepareWrite (baseIn_le h c) hprepared)
  rw [writeFields_eq]
  refine Issues.decideThen hprepared ?_
  refine Issues.decideThen hcomplete ?_
  exact Issues.bind (yields_readBase h c) (issues_readBase h c) (issues_physicalWrite h hfits c)

/-- A field write that succeeds had its arguments accepted. -/
lemma accepted_of_writeFields {w w' : World Simulator}
    (h : Blocking.run (r.writeFields args) Simulator.toBus w = (.ok (), w')) :
    ∃ p, r.layout.prepareWrite args = .ok p ∧ r.layout.checkComplete args = .ok () := by
  obtain ⟨p, hprepared, h⟩ := run_decideThen_eq_ok h
  obtain ⟨_, hcomplete, -⟩ := run_decideThen_eq_ok h
  exact ⟨p, hprepared, hcomplete⟩

/-- A field write that succeeds reads the register once as a whole, unless none of its fields can be
read, and writes it once as a whole.  The value written is the one that a read would have given, or
zero, with the arguments merged into it.  Nothing outside the register changes, and a read gives the
value written where reads of the register are not overridden. -/
theorem writeFields_merges (h : r.layout.Admitted) {w w' : World Simulator}
    (hrun : Blocking.run (r.writeFields args) Simulator.toBus w = (.ok (), w')) :
    ∃ base written,
      (if r.layout.readable then (Blocking.run r.read Simulator.toBus w).1 = .ok base
        else base = 0) ∧
      r.layout.Merges args base written ∧
      w'.trace = w.trace ++ r.mergeCalls written w.bus.blockAccess ∧
      (∀ address ∉ r.layout.wordAddresses, w'.bus.peek address = w.bus.peek address) ∧
      (r.layout.readable = true →
        (∀ address ∈ r.layout.wordAddresses, w.bus.overrides[address]? = none) →
        (Blocking.run r.read Simulator.toBus w').1 = .ok written) := by
  obtain ⟨p, hprepared, hcomplete⟩ := accepted_of_writeFields hrun
  have hbase := baseIn_le h w.bus.contents
  have hmerges := h.merges_of_prepareWrite hbase hprepared
  obtain ⟨w₁, hrun', hcontents⟩ := yields_writeFields h hprepared hcomplete w.bus.contents w rfl
  obtain ⟨htrace, -⟩ := issues_writeFields h hprepared hcomplete w.bus.contents w rfl
  obtain rfl : w' = w₁ := congrArg Prod.snd (hrun.symm.trans hrun')
  rw [hrun] at htrace
  refine ⟨r.baseIn w.bus.contents, p.apply (r.baseIn w.bus.contents), ?_, hmerges, htrace, ?_, ?_⟩
  · unfold baseIn
    split
    · next hreadable =>
      obtain ⟨_, hread, -⟩ := yields_read h hreadable w.bus.contents w rfl
      exact congrArg Prod.fst hread
    · rfl
  · intro address houtside
    have hstored := congrArg (Contents.stored · address) hcontents
    refine hstored.trans (Contents.stored_setAll_of_notMem ?_)
    rwa [RegisterLayout.addresses_stores]
  · intro hreadable hforced
    obtain ⟨_, hread, -⟩ := yields_read h hreadable w'.bus.contents w' rfl
    refine (congrArg Prod.fst hread).trans (congrArg Except.ok ?_)
    rw [hcontents]
    exact h.valueIn_stores (h.le_of_merges hbase hmerges) hforced

/-- A register of two words with a reversed field of 4 bits and a field that reaches from the first
word into the second one. -/
def straddled : Register where
  layout :=
    { name := "top.control"
      address := 0x10
      width := 32
      accessWidth := 16
      fields := [⟨"mode", ⟨0, 4, true⟩, .readWrite, none, none⟩,
        ⟨"level", ⟨8, 12, false⟩, .readWrite, none, none⟩] }
  lock := 0

lemma admitted_straddled : straddled.layout.Admitted := by
  have hsizes : ({ (default : Attributes) with
      kind := .register, registerWidth := some 32, accessWidth := some 16 }).toRegister
        "top.control" = .ok ⟨32, 16⟩ := rfl
  refine RegisterLayout.admitted_of_loaded hsizes ?_
  simp only [straddled, List.forall_mem_cons, List.not_mem_nil, false_implies, implies_true,
    and_true]
  exact ⟨⟨"top.control.mode",
      { (default : Attributes) with kind := .field, msb := some 0, lsb := some 3 }, _, rfl, rfl⟩,
    ⟨"top.control.level",
      { (default : Attributes) with kind := .field, msb := some 19, lsb := some 8 }, _, rfl, rfl⟩⟩

/-- The register starts with all ones.  The second value for the field counts, its four upper bits go
to the second word, and the one of the reversed field goes to bit 3. -/
theorem straddled_is_merged :
    ∃ w', Blocking.run
        (straddled.writeFields [("level", .int 0xabc), ("mode", .int 1), ("level", .int 0x123)])
        Simulator.toBus
        ⟨Simulator.new.preloadAll [(0x10, 0xffff), (0x12, 0xffff)], LockForest.empty, []⟩ =
        (.ok (), w') ∧
      w'.trace = [.readBlock 0x10 16 16 2, .writeBlock 0x10 16 16 [0x23f8, 0xfff1]] ∧
      (Blocking.run straddled.read Simulator.toBus w').1 = .ok 0xfff123f8 := by
  have hprepared : straddled.layout.prepareWrite
      [("level", .int 0xabc), ("mode", .int 1), ("level", .int 0x123)] =
      .ok ⟨0xfff0f, 0x12308⟩ := by decide
  set w : World Simulator :=
    ⟨Simulator.new.preloadAll [(0x10, 0xffff), (0x12, 0xffff)], LockForest.empty, []⟩ with hw
  have hwords : straddled.layout.wordAddresses = [0x10, 0x12] := by decide
  have hseen : ∀ address ∈ straddled.layout.wordAddresses,
      w.bus.contents.seen address &&& wordMask 16 = 0xffff ∧ w.bus.overrides[address]? = none := by
    rw [hwords]
    simp [hw, Simulator.contents, Contents.seen, Simulator.preloadAll, Simulator.preload,
      Simulator.new, Simulator.peek, Std.HashMap.getD_insert, wordMask, maxWordWidth, valueCount]
  have hbase : straddled.layout.valueIn w.bus.contents = 0xffffffff := by
    change joinWords 16 (straddled.layout.wordAddresses.map
      fun address => w.bus.contents.seen address &&& wordMask 16) = _
    rw [List.map_congr_left fun address haddress => (hseen address haddress).1, hwords]
    decide
  obtain ⟨w', hrun, -⟩ := yields_writeFields admitted_straddled hprepared rfl w.bus.contents w rfl
  obtain ⟨base, written, hread, hmerges, htrace, -, hback⟩ :=
    writeFields_merges admitted_straddled hrun
  have hstart : base = 0xffffffff := by
    obtain ⟨_, hread', -⟩ := yields_read admitted_straddled rfl w.bus.contents w rfl
    have hsame := (congrArg Prod.fst hread').symm.trans hread
    exact (Except.ok.inj hsame).symm.trans hbase
  have hwritten : written = 0xfff123f8 := by
    rw [hstart] at hmerges
    exact hmerges.unique (admitted_straddled.merges_of_prepareWrite (by decide) hprepared)
  subst hwritten
  refine ⟨w', hrun, ?_, hback rfl fun address haddress => (hseen address haddress).2⟩
  rw [htrace]
  decide

end Register

end RegisterMap
