import Mathlib
import RegisterMap.Proofs.Device.CachedSessions

/-!
# What a verified session reports

A session that verifies reads its object once more after the write and compares.  The comparison
stops where either list ends, so it is complete only because the values that are read back are as
many as those that were written: both counts come from the object alone (`Copied.readCount`),
however the words travel.

On a simulator a load that succeeded once succeeds again, whatever was stored since and whatever
reads are overridden.  So a session whose copy was loaded, edited and written ends with a comparison
of the copy with what is read back, and its outcome tells the two apart
(`verified_session_tells`): it succeeds if they agree, and otherwise names the first entry in which
they differ.  Nothing is assumed of the sizes of the object.
-/

namespace RegisterMap

open Blocking

variable {σ α : Type} {bus : Bus σ}

/-! ## Comparing lists -/

/-- Two lists agree before position `i` and hold the values `v` and `v'` there, which differ. -/
structure FirstDifference (written actual : List ℕ) (i v v' : ℕ) : Prop where
  before : written.take i = actual.take i
  written : written[i]? = some v
  actual : actual[i]? = some v'
  differ : v ≠ v'

lemma FirstDifference.cons {written actual : List ℕ} {i v v' : ℕ}
    (h : FirstDifference written actual i v v') (w : ℕ) :
    FirstDifference (w :: written) (w :: actual) (i + 1) v v' where
  before := by rw [List.take_succ_cons, List.take_succ_cons, h.before]
  written := h.written
  actual := h.actual
  differ := h.differ

/-- There is only one first difference. -/
lemma FirstDifference.unique {written actual : List ℕ} {i j v v' u u' : ℕ}
    (h : FirstDifference written actual i v v') (h' : FirstDifference written actual j u u') :
    i = j ∧ v = u ∧ v' = u' := by
  have hle : ∀ {i j v v' u u' : ℕ}, FirstDifference written actual i v v' →
      FirstDifference written actual j u u' → i ≤ j := by
    intro i j v v' u u' h h'
    by_contra hlt
    have hsame := congrArg (·[j]?) h.before
    simp only [List.getElem?_take, Nat.not_le.1 hlt, if_true, h'.written, h'.actual] at hsame
    exact h'.differ (Option.some.inj hsame)
  obtain rfl := Nat.le_antisymm (hle h h') (hle h' h)
  exact ⟨rfl, Option.some.inj (h.written.symm.trans h'.written),
    Option.some.inj (h.actual.symm.trans h'.actual)⟩

lemma verifyValues_self (address stride : ℕ) (values : List ℕ) :
    verifyValues address stride values values = .ok () := by
  induction values generalizing address with
  | nil => rfl
  | cons v rest ih =>
    rw [verifyValues, if_pos rfl]
    exact ih (address + stride)

/-- Lists of one length that are not the same have a first difference, and it is reported. -/
lemma verifyValues_of_ne {written actual : List ℕ} (hlength : written.length = actual.length)
    (hne : written ≠ actual) (address stride : ℕ) :
    ∃ i v v', FirstDifference written actual i v v' ∧
      verifyValues address stride written actual =
        .error (.verifyMismatch (address + i * stride) v v') := by
  induction written generalizing actual address with
  | nil => exact absurd (List.length_eq_zero_iff.1 hlength.symm).symm hne
  | cons w ws ih =>
    cases actual with
    | nil => cases hlength
    | cons a as =>
      by_cases hhead : w = a
      · subst hhead
        have hrest : ws ≠ as := fun heq => hne (heq ▸ rfl)
        obtain ⟨i, v, v', hfirst, hreport⟩ :=
          ih (Nat.succ.inj hlength) hrest (address + stride)
        refine ⟨i + 1, v, v', hfirst.cons w, ?_⟩
        rw [verifyValues, if_pos rfl, hreport, Nat.succ_mul, Nat.add_assoc, Nat.add_comm stride]
      · refine ⟨0, w, a, ⟨rfl, rfl, rfl, hhead⟩, ?_⟩
        rw [verifyValues, if_neg hhead, Nat.zero_mul, Nat.add_zero]

/-- Lists of one length pass exactly if they are the same. -/
lemma verifyValues_eq_ok_iff {written actual : List ℕ} (hlength : written.length = actual.length)
    (address stride : ℕ) :
    verifyValues address stride written actual = .ok () ↔ actual = written := by
  refine ⟨fun hok => ?_, fun heq => heq ▸ verifyValues_self address stride written⟩
  by_contra hne
  obtain ⟨i, v, v', -, hreport⟩ := verifyValues_of_ne hlength (Ne.symm hne) address stride
  cases hok.symm.trans hreport

/-! ## Registers -/

namespace Register

variable {r : Register}

/-- A value that is written to a register that takes one access is a word. -/
lemma completes_physicalWrite (value : ℕ) :
    Completes bus (r.physicalWrite value) (r.writes value) fun _ => True := by
  intro w u w' hrun
  refine (follows_writes fun hwide => ?_).completes (fun _ _ _ => trivial) w u w' hrun
  unfold physicalWrite at hrun
  rw [hwide, if_neg Bool.false_ne_true] at hrun
  obtain ⟨word, hword, -⟩ := run_decideThen_eq_ok hrun
  unfold RegisterLayout.toWord at hword ⊢
  exact if_neg (ite_error_eq_ok.1 hword).1

/-- A register of a simulator can always be read. -/
lemma exists_yields_physicalRead (c : Contents) : ∃ value, Yields r.physicalRead c value c := by
  unfold physicalRead
  cases r.layout.isWide with
  | true => exact ⟨_, (r.wordTransfer.yields_readWords c).bind (.pure _ _)⟩
  | false => exact ⟨_, Blocking.yields_read c _ _ _⟩

end Register

/-- A transfer of supported widths can always be read on a simulator. -/
lemma Transfer.exists_yields_readValues {t : Transfer} (hwidths : t.checkWidths = .ok ())
    (c : Contents) : ∃ values, Yields t.readValues c values c :=
  ⟨_, (Yields.decide hwidths c).bind
    ((Yields.mapM fun run _ => run.yields_readWords c).bind (.pure _ _))⟩

/-! ## Objects of sessions -/

namespace Copied

/-- The plan that reads the whole object. -/
def reads : Copied → List Call
  | register r => r.reads
  | array a => a.transfer.reads
  | entries mem start count => (mem.layout.transfer start count).reads

/-- The plan that writes a copy of the whole object. -/
def writes : (o : Copied) → o.Snapshot → List Call
  | register r, value => r.writes value
  | array a, values => a.transfer.writes values
  | entries mem start count, values => (mem.layout.transfer start count).writes values

/-- The number of values of a copy that was read. -/
def readCount : Copied → ℕ
  | register _ => 1
  | array a => a.transfer.readCount
  | entries mem start count => (mem.layout.transfer start count).readCount

variable {o : Copied} {copy : o.Snapshot}

/-- Where an object is read, it is read once and the number of values is its own. -/
lemma completes_load (o : Copied) : Completes bus o.target.load o.reads fun copy =>
    (o.values copy).length = o.readCount := by
  cases o with
  | register r => exact Register.follows_reads.completes fun _ _ _ => rfl
  | array a => exact Transfer.completes_readValues
  | entries mem start count => exact .decideThen fun _ _ => Transfer.completes_readValues

/-- Where a copy is written, it is written once. -/
lemma completes_store (hcount : (o.values copy).length = o.readCount) :
    Completes bus (o.target.store copy) (o.writes copy) fun _ => True := by
  cases o with
  | register r =>
    exact .decideThen fun _ _ => .decideThen fun _ _ => Register.completes_physicalWrite copy
  | array a => exact .decideThen fun _ _ => .decideThen fun _ _ => Transfer.completes_writeValues _
  | entries mem start count =>
    have hplan : (mem.layout.transfer start (List.length copy)).writes copy =
        (mem.layout.transfer start count).writes copy := by
      change List.length copy = Transfer.readCount _ at hcount
      unfold Transfer.readCount at hcount
      split at hcount
      · rw [List.length_eq_zero_iff.1 hcount]
        simp [Transfer.writes]
      · rw [hcount]
        rfl
    change Completes bus (mem.write start copy) _ _
    rw [show (entries mem start count).writes copy = _ from hplan.symm]
    exact .decideThen fun _ _ => .decideThen fun _ _ => .decideThen fun _ _ =>
      Transfer.completes_writeValues _

/-- A load that succeeded on a simulator succeeds on every other one. -/
lemma load_again {w w₁ : World Simulator}
    (hload : Blocking.run o.target.load Simulator.toBus w = (.ok copy, w₁)) (w' : World Simulator) :
    ∃ copy' w₁', Blocking.run o.target.load Simulator.toBus w' = (.ok copy', w₁') := by
  have hyields : ∃ copy', Yields o.target.load w'.bus.contents copy' w'.bus.contents := by
    cases o with
    | register r => exact Register.exists_yields_physicalRead _
    | array a =>
      obtain ⟨_, hwidths, -⟩ := run_decideThen_eq_ok hload
      exact Transfer.exists_yields_readValues hwidths _
    | entries mem start count =>
      obtain ⟨_, hrange, hrest⟩ := run_decideThen_eq_ok hload
      obtain ⟨_, hwidths, -⟩ := run_decideThen_eq_ok hrest
      obtain ⟨values, hvalues⟩ := Transfer.exists_yields_readValues hwidths w'.bus.contents
      exact ⟨values, (Yields.decide hrange _).bind hvalues⟩
  obtain ⟨copy', hcopy⟩ := hyields
  obtain ⟨w₁', hrun, -⟩ := hcopy w' rfl
  exact ⟨copy', w₁', hrun⟩

/-- What is loaded, edited and written is read once more and compared. -/
lemma run_withCached_verified {edit : o.Snapshot → Blocking σ (o.Snapshot × α)}
    {w w₁ w₂ w₃ w₄ : World σ} {locks : LockForest} {copy edited actual : o.Snapshot} {result : α}
    (hlock : w.locks.acquire o.lock = (true, locks))
    (hload : Blocking.run (o.target.snapshot .verified) bus { w with locks } = (.ok copy, w₁))
    (hedit : (edit copy).run bus w₁ = (.ok (edited, result), w₂))
    (hwrite : Blocking.run (o.target.store edited) bus w₂ = (.ok (), w₃))
    (hback : Blocking.run o.target.load bus w₃ = (.ok actual, w₄)) :
    Blocking.run (o.target.withCached .verified edit) bus w =
      ((verifyValues o.transfer.address o.transfer.stride (o.values edited) (o.values actual)).map
        fun _ => result, w₄.released o.lock) := by
  have hclose : Blocking.run (o.target.writeBack .verified edited) bus w₂ =
      (verifyValues o.transfer.address o.transfer.stride (o.values edited) (o.values actual),
        w₄) := by
    change Blocking.run (o.target.store edited >>= fun _ => o.target.load >>= fun actual =>
      Port.decide (verifyValues _ _ _ _)) bus w₂ = _
    rw [run_bind_of_ok hwrite, run_bind_of_ok hback, run_decide, target_verify]
  unfold SessionTarget.withCached
  rw [run_holding, o.target_lock, hlock]
  dsimp only
  rw [run_bind_of_ok hload, run_bind_of_ok hedit, run_bind, hclose]
  cases verifyValues o.transfer.address o.transfer.stride (o.values edited) (o.values actual) <;>
    rfl

end Copied

/-- On any simulator, let a session that verifies load its object, edit the copy without changing
the number of its values, and write it.  Then the copy has been written exactly once, whole and
before it is read back, and reading back succeeds with as many values.  The session succeeds if and
only if these are the values of the copy, and otherwise it fails with the address, the written and
the read value of the first entry in which they differ.  A session that is opened, edited and
finished as a value ends in the same way. -/
theorem verified_session_tells (o : Copied)
    (edit : o.Snapshot → Blocking Simulator (o.Snapshot × α))
    {w w₁ w₂ w₃ : World Simulator} {locks : LockForest} {copy edited : o.Snapshot} {result : α}
    (hlock : w.locks.acquire o.lock = (true, locks))
    (hload : Blocking.run (o.target.snapshot .verified) Simulator.toBus { w with locks } =
      (.ok copy, w₁))
    (hedit : (edit copy).run Simulator.toBus w₁ = (.ok (edited, result), w₂))
    (hkeep : (o.values edited).length = (o.values copy).length)
    (hwrite : Blocking.run (o.target.store edited) Simulator.toBus w₂ = (.ok (), w₃)) :
    let r := Blocking.run (o.target.withCached .verified edit) Simulator.toBus w
    ∃ (writes reads : List Call) (actual : o.Snapshot) (w₄ : World Simulator),
      w₃.trace = w₂.trace ++ writes ∧ writes.flatMap Call.singles = o.writes edited ∧
      Blocking.run o.target.load Simulator.toBus w₃ = (.ok actual, w₄) ∧
      w₄.trace = w₃.trace ++ reads ∧ reads.flatMap Call.singles = o.reads ∧
      (o.values actual).length = (o.values edited).length ∧
      r.2 = w₄.released o.lock ∧
      (r.1 = .ok result ↔ o.values actual = o.values edited) ∧
      (o.values actual ≠ o.values edited → ∃ i v v',
        FirstDifference (o.values edited) (o.values actual) i v v' ∧
          r.1 = .error (.verifyMismatch (o.transfer.entryAddress i) v v')) ∧
      ∀ edit' : o.Snapshot → Suspended (o.Snapshot × α),
        (∀ copy, Drives Simulator.toBus (edit' copy) (edit copy)) →
        Suspended.run Simulator.toBus (o.sessionAsync .verified edit') w = r := by
  intro r
  have hfirst := Copied.load_of_snapshot rfl hload
  obtain ⟨-, -, -, hcount⟩ := Copied.completes_load o _ _ _ hfirst
  have hcount' := hkeep.trans hcount
  obtain ⟨writes, hmade, hwrites, -⟩ := Copied.completes_store hcount' _ _ _ hwrite
  obtain ⟨actual, w₄, hback⟩ := Copied.load_again hfirst w₃
  obtain ⟨reads, hmade', hreads, hcount''⟩ := Copied.completes_load o _ _ _ hback
  have hlength : (o.values edited).length = (o.values actual).length :=
    hcount'.trans hcount''.symm
  have hrun : r = _ := Copied.run_withCached_verified hlock hload hedit hwrite hback
  refine ⟨writes, reads, actual, w₄, hmade.trace, hwrites, hback, hmade'.trace, hreads,
    hlength.symm, congrArg Prod.snd hrun, ?_, fun hne => ?_, fun edit' hdrives => ?_⟩
  · rw [hrun, ← verifyValues_eq_ok_iff hlength o.transfer.address o.transfer.stride]
    cases verifyValues o.transfer.address o.transfer.stride (o.values edited) (o.values actual) with
    | ok u => exact ⟨fun _ => rfl, fun _ => rfl⟩
    | error e => exact ⟨nofun, nofun⟩
  · obtain ⟨i, v, v', hdifference, hreport⟩ :=
      verifyValues_of_ne hlength (Ne.symm hne) o.transfer.address o.transfer.stride
    refine ⟨i, v, v', hdifference, ?_⟩
    rw [hrun, hreport]
    rfl
  · refine Copied.run_sessionAsync hdrives w fun copy' w₁' p w₂' hload' hend => ?_
    -- the session opens with the copy, and its edit ends, as they do for the other form
    rw [hlock, hload] at hload'
    cases hload'
    rw [hedit] at hend
    cases hend
    exact hkeep

/-- The second of four entries is read as another value than was written to it, and is named. -/
theorem overridden_entry_is_named :
    let o : Copied := .entries ⟨⟨"top.mem", 0x1000, 16, 32, 32, .readWrite⟩, 0⟩ 0 4
    let edit : List ℕ → Blocking Simulator (List ℕ × Unit) := fun _ => pure ([1, 2, 3, 4], ())
    let w : World Simulator :=
      ⟨Simulator.new.overrideRead 0x1004 0xdead, (LockForest.empty.create none).1, []⟩
    (Blocking.run (o.target.withCached .verified edit) Simulator.toBus w).1 =
      .error (.verifyMismatch 0x1004 2 0xdead) := by
  intro o edit w
  let c : Contents := ⟨fun _ => 0, Function.update (fun _ => none) 0x1004 (some 0xdead)⟩
  have hnew : Simulator.new.contents = ⟨fun _ => 0, fun _ => none⟩ := Simulator.contents_new true
  have hw : w.bus.contents = c := by
    change (Simulator.new.overrideRead 0x1004 0xdead).contents = c
    rw [Simulator.contents_overrideRead, hnew]
  have hwhole : o.transfer.Whole := ⟨by decide, by decide, by decide, by decide, by decide⟩
  have hloads : ∀ c, Yields o.target.load c ((List.range 4).map (o.transfer.valueIn c)) c :=
    fun c => (Yields.decide rfl c).bind (hwhole.yields_readValues c)
  have hstores : Yields (o.target.store [1, 2, 3, 4]) c ()
      (c.setAll (o.transfer.stores [1, 2, 3, 4])) :=
    (Yields.decide rfl c).bind ((Yields.decide rfl c).bind ((Yields.decide rfl c).bind
      (hwhole.yields_writeValues rfl (by decide) c)))
  obtain ⟨w₁, hload, hw₁⟩ := hloads c { w with locks := (w.locks.acquire o.lock).2 } hw
  obtain ⟨w₃, hwrite, hw₃⟩ := hstores w₁ hw₁
  obtain ⟨w₄, hback, -⟩ := hloads _ w₃ hw₃
  have hlock : w.locks.acquire o.lock = (true, (w.locks.acquire o.lock).2) := rfl
  obtain ⟨_, _, actual, _, -, -, hback', -, -, -, -, -, hreport, -⟩ :=
    verified_session_tells o edit hlock hload rfl rfl hwrite
  have hactual : actual = [1, 0xdead, 3, 4] := by
    rw [hback] at hback'
    rw [← Except.ok.inj (congrArg Prod.fst hback')]
    decide +kernel
  have hsecond : FirstDifference [1, 2, 3, 4] [1, 0xdead, 3, 4] 1 2 0xdead :=
    ⟨rfl, rfl, rfl, by decide⟩
  obtain ⟨i, v, v', hfirst, hreport⟩ := hreport (by rw [hactual]; decide)
  rw [hactual] at hfirst
  obtain ⟨rfl, rfl, rfl⟩ := hfirst.unique hsecond
  exact hreport

end RegisterMap
