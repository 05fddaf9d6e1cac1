import Mathlib
import RegisterMap.Proofs.Bus.Refusals
import RegisterMap.Proofs.Device.FieldWrites
import RegisterMap.Proofs.Device.Programs

/-!
# A failed write leaves no part of it unreported

Every write operation first checks its arguments, then reads what it needs, and then writes.  The
checks make no call, and the reads and the writes are prompt, so the operation fails in one of three
ways: by a check before any call, by its last read, or by its last write, which the bus itself
refused after all writes before it were carried out (`LeavesNoPart`).

No check that could fail stands between two calls.  In particular, the value that a field write
merges into a word is a word again (`RegisterLayout.Admitted.apply_le_of_prepareWrite`), so the check
of its size after the read always passes.
-/

namespace RegisterMap

/-! ## Three phases -/

namespace Blocking

variable {σ α β : Type} {bus : Bus σ}

/-- A failed run has made no write call, or its last call is a write that the bus refused.  It has
made no call at all, or its fault is that of its last call. -/
def LeavesNoPart (bus : Bus σ) (x : Blocking σ α) : Prop :=
  ∀ (w w' : World σ) (e : Fault), x.run bus w = (.error e, w') →
    ∃ calls, Made bus w w' calls ∧
      ((∀ c ∈ calls, c.isWrite = false) ∨
        ∃ init c, calls = init ++ [c] ∧ c.isWrite = true ∧ bus.Serves w.bus init ∧
          (bus.answer c (bus.after w.bus init)).1 = .error e) ∧
      (calls = [] ∨ bus.StopsAt w.bus calls e)

variable {x : Blocking σ α} {f : α → Blocking σ β} {P : α → Prop} {R : β → Prop}

lemma LeavesNoPart.fail (e : Fault) : LeavesNoPart bus (Port.fail e : Blocking σ α) := by
  intro w w' e' hrun
  cases hrun
  exact ⟨[], .refl w, .inl (by simp), .inl rfl⟩

/-- A check makes no call. -/
lemma LeavesNoPart.decideThen {outcome : Except Fault α}
    (h : ∀ a, outcome = .ok a → LeavesNoPart bus (f a)) :
    LeavesNoPart bus (Port.decide outcome >>= f) := by
  cases outcome with
  | error e => exact .fail e
  | ok a => exact h a rfl

/-- Reads, and then writes. -/
theorem LeavesNoPart.of_prompt (hreads : Prompt bus false x P)
    (hwrites : ∀ a, P a → Prompt bus true (f a) R) : LeavesNoPart bus (x >>= f) := by
  intro w w' e hrun
  obtain ⟨reads, hmade, hkind, hend⟩ := hreads w
  rw [run_bind] at hrun
  rcases hx : x.run bus w with ⟨e' | a, w₁⟩ <;> rw [hx] at hrun hmade hend
  · -- the last read fails
    cases hrun
    exact ⟨reads, hmade, .inl hkind, .inr hend⟩
  · obtain ⟨hserves, ha⟩ := hend
    obtain ⟨writes, hmade', hkind', hend'⟩ := hwrites a ha w₁
    dsimp only at hrun hmade
    rw [hrun] at hmade' hend'
    rw [hmade.state] at hend'
    have hstop := hend'.append hserves
    refine ⟨reads ++ writes, hmade.trans hmade', .inr ?_, .inr hstop⟩
    -- the write phase has a last call, which is the last call of the operation
    obtain ⟨init, c, rfl, hinit, hfault⟩ := hend'
    have hwrite : c.isWrite = true := hkind' c (by simp)
    refine ⟨reads ++ init, c, (List.append_assoc _ _ _).symm, hwrite,
      Bus.serves_append.2 ⟨hserves, hinit⟩, ?_⟩
    rw [Bus.after_append]
    exact Call.answer_eq_of_fault hwrite hfault

lemma LeavesNoPart.of_writes (h : Prompt bus true x P) : LeavesNoPart bus x := by
  have hreads : Prompt bus false (Pure.pure () : Blocking σ Unit) fun _ => True := .pure trivial
  exact LeavesNoPart.of_prompt (f := fun _ => x) hreads fun _ _ => h

end Blocking

/-! ## Devices -/

open Blocking

variable {σ : Type} {bus : Bus σ}

/-- What is merged into a word fits a word. -/
lemma RegisterLayout.Admitted.apply_le_of_prepareWrite {r : RegisterLayout} (h : r.Admitted)
    (hwide : r.isWide = false) {args : FieldValues} {p : WriteMask}
    (hp : r.prepareWrite args = .ok p) {base : ℕ} (hbase : base ≤ wordMask maxWordWidth) :
    p.apply base ≤ wordMask maxWordWidth := by
  have hwidth : r.width ≤ maxWordWidth := by
    rw [h.width_eq hwide]
    exact h.sizes.accessWidth_le
  -- the bits that are written are those that the register gets when it starts from zero
  have hzero : p.apply 0 ≤ r.maxValue :=
    h.le_of_merges (Nat.zero_le _) (h.merges_of_prepareWrite (Nat.zero_le _) hp)
  have hbase' : base ≤ valueMask maxWordWidth := hbase
  show p.apply base ≤ valueMask maxWordWidth
  refine le_valueMask_of_testBit (by decide) fun bit hbit => ?_
  have hvalue : p.value.testBit bit = false := by
    have hclear := testBit_of_le_valueMask hzero (hwidth.trans hbit)
    rw [WriteMask.testBit_apply] at hclear
    simpa using hclear
  rw [WriteMask.testBit_apply, hvalue, testBit_of_le_valueMask hbase' hbit]
  rfl

namespace Register

variable {r : Register}

/-- A register that takes a single access is read as a word. -/
lemma prompt_physicalRead (hwords : bus.AnswersWords) (r : Register) :
    Prompt bus false r.physicalRead fun value =>
      r.layout.isWide = false → value ≤ wordMask maxWordWidth := by
  unfold physicalRead
  cases r.layout.isWide with
  | true =>
    rw [if_pos rfl]
    exact .bind r.wordTransfer.prompt_readWords fun words _ => .pure fun hnarrow => by cases hnarrow
  | false =>
    rw [if_neg Bool.false_ne_true]
    refine (prompt_call _ fun _ => rfl).mono ?_
    rintro word ⟨s, hanswer⟩ -
    exact hwords _ _ _ s word hanswer

/-- A value that fits is written without a check between the writes. -/
lemma prompt_physicalWrite {value : ℕ}
    (hvalue : r.layout.isWide = false → value ≤ wordMask maxWordWidth) :
    Prompt bus true (r.physicalWrite value) fun _ => True := by
  unfold physicalWrite
  cases hwide : r.layout.isWide with
  | true =>
    rw [if_pos rfl]
    exact r.wordTransfer.prompt_writeWords (length_splitWords _ _)
  | false =>
    have hword : r.layout.toWord value = .ok value := if_neg (Nat.not_lt.2 (hvalue hwide))
    rw [if_neg Bool.false_ne_true, hword]
    show Prompt bus true (Port.call _) _
    exact (prompt_call _ fun _ => rfl).mono fun _ _ => trivial

lemma leavesNoPart_write (h : r.layout.Admitted) (value : ℕ) :
    LeavesNoPart bus (r.write value) := by
  refine .decideThen fun _ _ => .decideThen fun _ hcheck => .of_writes (prompt_physicalWrite ?_)
  intro hwide
  have hfits : value ≤ r.layout.maxValue := by
    by_contra hlarge
    rw [RegisterLayout.checkValue, if_pos (Nat.lt_of_not_le hlarge)] at hcheck
    cases hcheck
  refine hfits.trans (valueMask_le_of_le ?_)
  rw [h.width_eq hwide]
  exact h.sizes.accessWidth_le

theorem leavesNoPart_writeFields (hwords : bus.AnswersWords) (h : r.layout.Admitted)
    (args : FieldValues) : LeavesNoPart bus (r.writeFields args) := by
  unfold writeFields
  refine .decideThen fun p hp => .decideThen fun _ _ => ?_
  split
  · refine .of_prompt (prompt_physicalRead hwords r) fun base hbase => prompt_physicalWrite ?_
    exact fun hwide => h.apply_le_of_prepareWrite hwide hp (hbase hwide)
  · -- the base is zero, and nothing is read
    have hwrite : Prompt bus true (r.physicalWrite (p.apply 0)) fun _ => True :=
      prompt_physicalWrite fun hwide => h.apply_le_of_prepareWrite hwide hp (Nat.zero_le _)
    exact .of_writes hwrite

end Register

lemma Transfer.leavesNoPart_writeWords (t : Transfer) (words : List ℕ) :
    LeavesNoPart bus (t.writeWords words) := by
  by_cases hlength : words.length = t.entries
  · exact .of_writes (t.prompt_writeWords hlength)
  · rw [writeWords_eq, if_pos hlength]
    exact .fail _

lemma Transfer.leavesNoPart_writeValues (t : Transfer) (values : List ℕ) :
    LeavesNoPart bus (t.writeValues values) := by
  refine .decideThen fun _ _ => .decideThen fun words hwords => ?_
  exact .of_writes (prompt_writeRuns (length_of_splitEntries hwords))

lemma RegisterArray.leavesNoPart_writeAll (a : RegisterArray) (values : List ℕ) :
    LeavesNoPart bus (a.writeAll values) :=
  .decideThen fun _ _ => .decideThen fun _ _ => a.transfer.leavesNoPart_writeValues values

lemma Memory.leavesNoPart_write (mem : Memory) (start : ℕ) (values : List ℕ) :
    LeavesNoPart bus (mem.write start values) := by
  refine .decideThen fun _ _ => .decideThen fun _ _ => .decideThen fun _ _ => ?_
  exact Transfer.leavesNoPart_writeValues _ values

/-! ## Operations -/

namespace DeviceOperation

/-- The operation writes. -/
def isWrite : DeviceOperation → Bool
  | writeWords .. | writeValues .. | writeRegister .. | writeFields .. | writeField ..
  | writeMember .. | writeAll .. | writeElements .. | writeMemory .. | writeEntry ..
  | writeBuffer .. | writeBits .. => true
  | readWords _ | readValues _ | readRegister _ | readFields _ | readField _ | readFieldValue _
  | readMember .. | readAll _ | readFieldsAll _ | readElements _ | readMemory .. | readEntry ..
  | readBuffer .. | readBits .. => false

/-- The register that the operation is on, itself or through one of its fields. -/
def register? : DeviceOperation → Option Register
  | readRegister r | writeRegister r _ | readFields r | writeFields r _ => some r
  | readField f | readFieldValue f | writeField f _ | readMember f _ | writeMember f _ _ =>
    some f.register
  | _ => none

theorem leavesNoPart_perform (hwords : bus.AnswersWords) {op : DeviceOperation}
    (hwrite : op.isWrite = true) (hadmitted : ∀ r ∈ op.register?, r.layout.Admitted) :
    LeavesNoPart bus op.perform := by
  cases op with
  | writeWords t words => exact t.leavesNoPart_writeWords words
  | writeValues t values => exact t.leavesNoPart_writeValues values
  | writeRegister r value => exact r.leavesNoPart_write (hadmitted r rfl) value
  | writeFields r args => exact r.leavesNoPart_writeFields hwords (hadmitted r rfl) args
  | writeField f value =>
    exact f.register.leavesNoPart_writeFields hwords (hadmitted f.register rfl) _
  | writeMember f α a =>
    exact f.register.leavesNoPart_writeFields hwords (hadmitted f.register rfl) _
  | writeAll a values => exact a.leavesNoPart_writeAll values
  | writeElements a buffer => exact a.leavesNoPart_writeAll _
  | writeMemory mem start values => exact mem.leavesNoPart_write start values
  | writeEntry mem index value => exact mem.leavesNoPart_write index [value]
  | writeBuffer mem start buffer => exact mem.leavesNoPart_write start _
  | writeBits mem start bits =>
    show LeavesNoPart bus (mem.writeBits start bits)
    unfold Memory.writeBits
    dsimp only
    split
    · exact mem.leavesNoPart_write start _
    · exact .fail _
  | _ => cases hwrite

end DeviceOperation

/-- Whatever the bus does, a write that fails has made no write call, or its last call is a write
that the bus refused with the fault that is returned, after calls that were all carried out.  A fault
that is not that of the last call comes before any call. -/
theorem failed_write_leaves_no_part (hwords : bus.AnswersWords) {op : DeviceOperation}
    (hwrite : op.isWrite = true) (hadmitted : ∀ r ∈ op.register?, r.layout.Admitted)
    {w w' : World σ} {e : Fault} (hrun : Blocking.run op.perform bus w = (.error e, w')) :
    ∃ calls, w'.trace = w.trace ++ calls ∧ w'.bus = bus.after w.bus calls ∧ w'.locks = w.locks ∧
      ((∀ c ∈ calls, c.isWrite = false) ∨
        ∃ init c, calls = init ++ [c] ∧ c.isWrite = true ∧ bus.Serves w.bus init ∧
          (bus.answer c (bus.after w.bus init)).1 = .error e) ∧
      (calls = [] ∨ bus.StopsAt w.bus calls e) := by
  obtain ⟨calls, hmade, hpart, hcause⟩ :=
    op.leavesNoPart_perform hwords hwrite hadmitted w w' e hrun
  exact ⟨calls, hmade.trace, hmade.state, hmade.locks, hpart, hcause⟩

/-- A bus without block accesses that refuses writes to one address. -/
def Bus.refusing (address : ℕ) : Bus Unit where
  answer c s :=
    match c with
    | .read .. => (.ok 0, s)
    | .write a _ _ _ => (if a = address then .error (.bus a "refused") else .ok (), s)
    | .readBlock a _ _ _ => (.error (.missingCallback .readBlock a), s)
    | .writeBlock a _ _ _ => (.error (.missingCallback .writeBlock a), s)
  blockReads _ := false
  blockWrites _ := false

/-- The register has both of its words read and the first one written, and the second one is
refused. -/
theorem second_word_is_refused :
    (Bus.refusing 0x12).AnswersWords ∧ Register.straddled.layout.Admitted ∧
      ∃ w', Blocking.run
          (DeviceOperation.writeFields Register.straddled [("level", .int 0x123)]).perform
          (Bus.refusing 0x12) ⟨(), LockForest.empty, []⟩ = (.error (.bus 0x12 "refused"), w') ∧
        w'.trace = [.read 0x10 16 16, .read 0x12 16 16, .write 0x10 16 16 0x2300,
          .write 0x12 16 16 0x1] ∧
        (Bus.refusing 0x12).StopsAt () w'.trace (.bus 0x12 "refused") := by
  have hwords : (Bus.refusing 0x12).AnswersWords := by
    intro address width accessWidth s word h
    cases h
    exact Nat.zero_le _
  have hrun : Blocking.run
      (DeviceOperation.writeFields Register.straddled [("level", .int 0x123)]).perform
      (Bus.refusing 0x12) ⟨(), LockForest.empty, []⟩ =
      (.error (.bus 0x12 "refused"), ⟨(), LockForest.empty, [.read 0x10 16 16, .read 0x12 16 16,
        .write 0x10 16 16 0x2300, .write 0x12 16 16 0x1]⟩) := rfl
  refine ⟨hwords, Register.admitted_straddled, _, hrun, rfl, ?_⟩
  obtain ⟨calls, htrace, -, -, -, hcause⟩ := failed_write_leaves_no_part hwords rfl
    (fun r hr => by cases hr; exact Register.admitted_straddled) hrun
  rw [List.nil_append] at htrace
  rw [htrace]
  refine hcause.resolve_left fun hnone => ?_
  rw [hnone] at htrace
  cases htrace

end RegisterMap
