import Mathlib
import RegisterMap.Proofs.Device.Flavours
import RegisterMap.Proofs.Device.Requests

/-!
# Access rights on the bus

What software may do with a register, an array or a memory is decided before the bus is asked.  The
calls that move words check nothing themselves, so this is a statement about everything that makes
them: about reads and writes, about the read that precedes a write of fields, about the first copy
of a session, its write back and the reading back of what was written.

A user of one object (`Device`) performs operations on it and opens sessions, one inside the other
(`Program`) or as handles that are closed in any order (`Client`).  Whatever the bus answers, an
object that cannot be read sees no read and an object that cannot be written sees no write
(`calls_respect_rights`).
-/

namespace RegisterMap

open Suspended

/-! ## Objects -/

/-- The object that software works on. -/
inductive Device where
  | register (r : Register)
  | array (a : RegisterArray)
  | memory (mem : Memory)

namespace Device

/-- Software may read the object: some field of it, or the memory. -/
def readable : Device → Bool
  | register r => r.layout.readable
  | array a => a.layout.readable
  | memory mem => mem.layout.access.readable

/-- Software may write the object. -/
def writable : Device → Bool
  | register r => r.layout.writable
  | array a => a.layout.writable
  | memory mem => mem.layout.access.writable

/-- The registers of the object: the register itself, or the elements of the array. -/
def HasRegister : Device → Register → Prop
  | register r, r' => r' = r
  | array a, r' => ∃ flat, r' = a.element flat
  | memory _, _ => False

/-- The fields of the registers of the object. -/
def HasField (d : Device) (f : Field) : Prop :=
  d.HasRegister f.register ∧ f.layout ∈ f.register.layout.fields

/-- The ranges and registers of the object, and the object itself, which sessions copy. -/
def Copies (d : Device) : Copied → Prop
  | .register r => d.HasRegister r
  | .array a => d = .array a
  | .entries mem _ _ => d = .memory mem

variable {d : Device} {r : Register} {f : Field}

lemma HasRegister.readable (h : d.HasRegister r) : r.layout.readable = d.readable := by
  cases d with
  | register r' => rw [show r = r' from h]; rfl
  | array a =>
    obtain ⟨flat, rfl⟩ := h
    rfl
  | memory mem => exact h.elim

lemma HasRegister.writable (h : d.HasRegister r) : r.layout.writable = d.writable := by
  cases d with
  | register r' => rw [show r = r' from h]; rfl
  | array a =>
    obtain ⟨flat, rfl⟩ := h
    rfl
  | memory mem => exact h.elim

/-- A field that software may read makes its register one. -/
lemma HasField.readable (h : d.HasField f) (hfield : f.layout.access.readable = true) :
    d.readable = true := by
  rw [← h.1.readable]
  exact List.any_eq_true.2 ⟨f.layout, h.2, hfield⟩

lemma Copies.readable {o : Copied} (h : d.Copies o) : o.mayRead = d.readable := by
  cases o with
  | register r => exact HasRegister.readable h
  | array a => rw [show d = .array a from h]; rfl
  | entries mem start count => rw [show d = .memory mem from h]; rfl

lemma Copies.writable {o : Copied} (h : d.Copies o) : o.mayWrite = d.writable := by
  cases o with
  | register r => exact HasRegister.writable h
  | array a => rw [show d = .array a from h]; rfl
  | entries mem start count => rw [show d = .memory mem from h]; rfl

/-- What software may ask for when it works on the object. -/
def Permits (d : Device) : Request → Prop
  | .call c => (c.isWrite = false → d.readable = true) ∧ (c.isWrite = true → d.writable = true)
  | .blockReads | .blockWrites | .acquire _ | .release _ => True

lemma allows_permits (d : Device) : Allows d.Permits d.readable d.writable where
  blockReads := trivial
  blockWrites := trivial
  reads hread c hc := ⟨fun _ => hread, fun hwrite => absurd hwrite (by simp [hc])⟩
  writes hwrite c hc := ⟨fun hread => absurd hread (by simp [hc]), fun _ => hwrite⟩

end Device

/-! ## Work on one object -/

namespace DeviceOperation

/-- The operation is on the object, on a register of it, or on a field. -/
def On (d : Device) : DeviceOperation → Prop
  | readWords _ | writeWords .. | readValues _ | writeValues .. => False
  | readRegister r | writeRegister r _ | readFields r | writeFields r _ => d.HasRegister r
  | readField f | readFieldValue f | writeField f _ | readMember f _ | writeMember f _ _ =>
    d.HasField f
  | readAll a | writeAll a _ | readFieldsAll a | readElements a | writeElements a _ => d = .array a
  | readMemory mem .. | writeMemory mem .. | readEntry mem _ | writeEntry mem .. | readBuffer mem ..
  | writeBuffer mem .. | readBits mem .. | writeBits mem .. => d = .memory mem

variable {d : Device} {op : DeviceOperation}

lemma On.mayRead (h : op.On d) (hop : op.mayRead = true) : d.readable = true := by
  cases op with
  | readWords | writeWords | readValues | writeValues => exact h.elim
  | readRegister | writeRegister | readFields | writeFields =>
    rwa [← Device.HasRegister.readable h]
  | readField | readFieldValue | readMember => exact Device.HasField.readable h hop
  | writeField | writeMember => rwa [← Device.HasRegister.readable h.1]
  | readAll a | writeAll a | readFieldsAll a | readElements a | writeElements a =>
    rwa [show d = .array a from h]
  | readMemory mem | writeMemory mem | readEntry mem | writeEntry mem | readBuffer mem
  | writeBuffer mem | readBits mem | writeBits mem => rwa [show d = .memory mem from h]

lemma On.mayWrite (h : op.On d) (hop : op.mayWrite = true) : d.writable = true := by
  cases op with
  | readWords | writeWords | readValues | writeValues => exact h.elim
  | readRegister | writeRegister | readFields | writeFields =>
    rwa [← Device.HasRegister.writable h]
  | readField | readFieldValue | readMember | writeField | writeMember =>
    rwa [← Device.HasRegister.writable h.1]
  | readAll a | writeAll a | readFieldsAll a | readElements a | writeElements a =>
    rwa [show d = .array a from h]
  | readMemory mem | writeMemory mem | readEntry mem | writeEntry mem | readBuffer mem
  | writeBuffer mem | readBits mem | writeBits mem => rwa [show d = .memory mem from h]

lemma On.asks (h : op.On d) : Asks d.Permits (fun _ => True) op.perform :=
  (d.allows_permits.mono h.mayRead h.mayWrite).asks_perform op

lemma On.asks_async (h : op.On d) : Asks d.Permits (fun _ => True) op.performAsync := by
  rw [op.performAsync_eq]
  exact h.asks

end DeviceOperation

/-- Everything that the program does is on the object. -/
def Program.On {α : Type} (d : Device) : Program α → Prop
  | done _ => True
  | perform op next => op.On d ∧ ∀ outcome, (next outcome).On d
  | session o _ body next =>
    d.Copies o ∧ (∀ copy, (body copy).On d) ∧ ∀ outcome, (next outcome).On d

/-- What a user of suspended operations can write.  Open sessions are held in a list, the newest
first, and named by their places. -/
inductive Client : Type → Type 1 where
  | done {α : Type} (outcome : Except Fault α) : Client α
  | perform {α : Type} (op : DeviceOperation) (next : Except Fault op.Result → Client α) : Client α
  /-- Opens a session and goes on with its first copy. -/
  | opening {α : Type} (o : Copied) (options : SessionOptions)
      (next : Except Fault o.Snapshot → Client α) : Client α
  /-- Changes the copy of a session in memory. -/
  | edit {α : Type} (place : ℕ) (change : (o : Copied) → o.Snapshot → o.Snapshot)
      (next : Client α) : Client α
  | finish {α : Type} (place : ℕ) (next : Except Fault Unit → Client α) : Client α
  | drop {α : Type} (place : ℕ) (next : Client α) : Client α

namespace Client

/-- Runs a client that holds some sessions. -/
def run {α : Type} : Client α → List OpenSession → Suspended α
  | done outcome, _ => Port.decide outcome
  | perform op next, held => do
    let outcome ← Port.attempt op.performAsync
    (next outcome).run held
  | opening o options next, held => do
    match ← Port.attempt (o.openAsync options) with
    | .ok s => (next (.ok s.copy)).run (⟨o, s⟩ :: held)
    | .error e => (next (.error e)).run held
  | edit place change next, held =>
    next.run (held.modify place fun s =>
      ⟨s.object, { s.handle with copy := change s.object s.handle.copy }⟩)
  | finish place next, held =>
    match held[place]? with
    | some s => do
      let outcome ← Port.attempt s.handle.finish
      (next outcome).run (held.eraseIdx place)
    | none => (next (.ok ())).run held
  | drop place next, held =>
    match held[place]? with
    | some s => do
      s.handle.drop
      next.run (held.eraseIdx place)
    | none => next.run held

/-- Everything that the client does is on the object. -/
def On {α : Type} (d : Device) : Client α → Prop
  | done _ => True
  | perform op next => op.On d ∧ ∀ outcome, (next outcome).On d
  | opening o _ next => d.Copies o ∧ ∀ outcome, (next outcome).On d
  | edit _ _ next => next.On d
  | finish _ next => ∀ outcome, (next outcome).On d
  | drop _ next => next.On d

end Client

/-! ## Sessions on the object -/

section Sessions

variable {d : Device} {o : Copied}

/-- A session that was opened is verified only if its object can be read. -/
def Handle.Opened (s : Handle o) : Prop := s.options.verify = true → o.mayRead = true

namespace Device.Copies

variable (h : d.Copies o)
include h

lemma asks_load (hread : o.mayRead = true) :
    Asks d.Permits (fun _ => True) (o.target (m := Suspended)).load := by
  have hallows := d.allows_permits
  rw [← h.readable, hread] at hallows
  exact o.asks_load hallows

lemma asks_snapshot (options : SessionOptions) :
    Asks d.Permits (fun _ => options.verify = true → o.mayRead = true)
      (o.target.snapshot options) :=
  (SessionTarget.asks_snapshot options fun hreadable =>
    h.asks_load (Copied.mayRead_of_readable hreadable)).mono (fun _ => id)
      fun _ hcopy hset => Copied.mayRead_of_readable (hcopy hset)

lemma asks_writeBack {options : SessionOptions}
    (hverified : options.verify = true → o.mayRead = true) (copy : o.Snapshot) :
    Asks d.Permits (fun _ => True) (o.target.writeBack options copy) :=
  SessionTarget.asks_writeBack options
    (o.asks_store (d.allows_permits.mono id fun hwrite => h.writable ▸ hwrite))
    (fun hset => h.asks_load (hverified hset)) copy

lemma asks_withCached {α : Type} (options : SessionOptions)
    {edit : o.Snapshot → Suspended (o.Snapshot × α)}
    (hedit : ∀ copy, Asks d.Permits (fun _ => True) (edit copy)) :
    Asks d.Permits (fun _ => True) (o.target.withCached options edit) := by
  unfold SessionTarget.withCached Port.holding
  refine .bind (.ask trivial) fun taken _ => ?_
  split
  · refine .bind (.attempt (Q := fun _ => True) ?_) fun outcome _ =>
      .bind (.ask trivial) fun _ _ => .decide fun _ _ => trivial
    refine .bind (h.asks_snapshot options) fun copy hverified => ?_
    refine .bind (hedit copy) fun edited _ => ?_
    exact .bind (h.asks_writeBack hverified edited.1) fun _ _ => .pure trivial
  · exact .fail _

lemma asks_openAsync (options : SessionOptions) :
    Asks d.Permits Handle.Opened (o.openAsync options) := by
  rw [o.openAsync_eq, map_eq_pure_bind]
  refine asks_locking trivial trivial ?_
  exact .bind (h.asks_snapshot options) fun copy hverified => .pure hverified

lemma asks_finish {s : Handle o} (hs : s.Opened) : Asks d.Permits (fun _ => True) s.finish := by
  rw [Copied.finish_eq]
  refine asks_unlocking trivial ?_
  cases o with
  | register r => exact h.asks_writeBack hs s.copy
  | array a => exact h.asks_writeBack hs s.copy
  | entries mem start count =>
    -- the range that is read back is on the same memory
    have hback : d.Copies (.entries mem start (List.length s.copy)) := h
    exact hback.asks_writeBack hs s.copy

lemma asks_sessionAsync {α : Type} (options : SessionOptions)
    {edit : o.Snapshot → Suspended (o.Snapshot × α)}
    (hedit : ∀ copy, Asks d.Permits (fun _ => True) (edit copy)) :
    Asks d.Permits (fun _ => True) (o.sessionAsync options edit) := by
  unfold Copied.sessionAsync
  refine .bind (h.asks_openAsync options) fun s hs => ?_
  refine .bind (.attempt (hedit s.copy)) fun edited _ => ?_
  split
  · exact .bind (h.asks_finish hs) fun _ _ => .pure trivial
  · exact .bind (.ask trivial) fun _ _ => .fail _

end Device.Copies

/-- Programs ask for nothing that software may not do. -/
theorem Program.On.asks {α : Type} {p : Program α} (h : p.On d) :
    Asks d.Permits (fun _ => True) p.run := by
  induction p with
  | done outcome => exact .decide fun _ _ => trivial
  | perform op next ih => exact .bind (.attempt h.1.asks) fun outcome _ => ih outcome (h.2 outcome)
  | session o options body next ihbody ihnext =>
    obtain ⟨ho, hbody, hnext⟩ := h
    have hsession := ho.asks_withCached options fun copy => ihbody copy (hbody copy)
    exact .bind (.attempt hsession) fun outcome _ => ihnext outcome (hnext outcome)

/-- Neither do they in the asynchronous flavour. -/
theorem Program.On.asks_awaited {α : Type} {p : Program α} (h : p.On d) :
    Asks d.Permits (fun _ => True) p.awaited := by
  induction p with
  | done outcome => exact .decide fun _ _ => trivial
  | perform op next ih =>
    exact .bind (.attempt h.1.asks_async) fun outcome _ => ih outcome (h.2 outcome)
  | session o options body next ihbody ihnext =>
    obtain ⟨ho, hbody, hnext⟩ := h
    have hsession := ho.asks_sessionAsync options fun copy => ihbody copy (hbody copy)
    exact .bind (.attempt hsession) fun outcome _ => ihnext outcome (hnext outcome)

/-- Clients ask for nothing that software may not do, as long as the sessions that they hold are on
the object. -/
theorem Client.On.asks {α : Type} {c : Client α} (h : c.On d) {held : List OpenSession}
    (hheld : ∀ s ∈ held, d.Copies s.object ∧ s.handle.Opened) :
    Asks d.Permits (fun _ => True) (c.run held) := by
  induction c generalizing held with
  | done outcome => exact .decide fun _ _ => trivial
  | perform op next ih =>
    exact .bind (.attempt h.1.asks_async) fun outcome _ => ih outcome (h.2 outcome) hheld
  | opening o options next ih =>
    obtain ⟨ho, hnext⟩ := h
    unfold Client.run
    refine .bind (.attempt (ho.asks_openAsync options)) fun outcome hs => ?_
    split
    · next s =>
      refine ih _ (hnext _) fun s' hs' => ?_
      rcases List.mem_cons.1 hs' with rfl | hold
      · exact ⟨ho, hs s rfl⟩
      · exact hheld s' hold
    · exact ih _ (hnext _) hheld
  | edit place change next ih =>
    refine ih h fun s hs => ?_
    -- an edit changes the copy of a session and nothing else of it
    obtain ⟨i, hi⟩ := List.mem_iff_getElem?.1 hs
    rw [List.getElem?_modify] at hi
    obtain ⟨old, hold, rfl⟩ := Option.map_eq_some_iff.1 hi
    have hopened := hheld old (List.mem_of_getElem? hold)
    by_cases hplace : place = i
    · rw [if_pos hplace]
      exact hopened
    · rw [if_neg hplace]
      exact hopened
  | finish place next ih =>
    have hrest : ∀ s ∈ held.eraseIdx place, d.Copies s.object ∧ s.handle.Opened := fun s hs =>
      hheld s (List.mem_of_mem_eraseIdx hs)
    unfold Client.run
    split
    · next s hs =>
      obtain ⟨hcopies, hopened⟩ := hheld s (List.mem_of_getElem? hs)
      exact .bind (.attempt (hcopies.asks_finish hopened)) fun outcome _ =>
        ih outcome (h outcome) hrest
    · exact ih _ (h _) hheld
  | drop place next ih =>
    unfold Client.run
    split
    · exact .bind (.ask trivial) fun _ _ => ih h fun s hs =>
        hheld s (List.mem_of_mem_eraseIdx hs)
    · exact ih h hheld

end Sessions

/-! ## Calls -/

/-- From one world to the other, the object was accessed as software may: without a read if it
cannot be read, and without a write if it cannot be written. -/
def Device.AccessedWithin {σ : Type} (d : Device) (w w' : World σ) : Prop :=
  ∃ calls, w'.trace = w.trace ++ calls ∧
    (d.readable = false → ∀ c ∈ calls, c.kind ≠ .read ∧ c.kind ≠ .readBlock) ∧
    (d.writable = false → ∀ c ∈ calls, c.kind ≠ .write ∧ c.kind ≠ .writeBlock)

lemma accessedWithin_of_asks {σ α : Type} {bus : Bus σ} {d : Device} {x : Suspended α}
    (h : Asks d.Permits (fun _ => True) x) (w : World σ) :
    d.AccessedWithin w (Suspended.run bus x w).2 := by
  obtain ⟨calls, htrace, hcalls⟩ := h.calls bus w
  refine ⟨calls, htrace, fun hread c hc => ?_, fun hwrite c hc => ?_⟩
  · have hpermits := (hcalls c hc).1
    rw [hread] at hpermits
    cases c <;> simp_all [Call.kind, Call.isWrite]
  · have hpermits := (hcalls c hc).2
    rw [hwrite] at hpermits
    cases c <;> simp_all [Call.kind, Call.isWrite]

/-- Whatever is done with a register, an array or a memory, in either flavour and on any bus: if the
object cannot be read, no read reaches the bus, and if it cannot be written, no write does. -/
theorem calls_respect_rights {σ α : Type} (bus : Bus σ) (d : Device) (w : World σ) :
    (∀ p : Program α, p.On d →
      d.AccessedWithin w (Blocking.run p.run bus w).2 ∧
      d.AccessedWithin w (Suspended.run bus p.awaited w).2) ∧
    ∀ c : Client α, c.On d → d.AccessedWithin w (Suspended.run bus (c.run []) w).2 := by
  refine ⟨fun p hp => ?_, fun c hc => accessedWithin_of_asks (hc.asks (by simp)) w⟩
  refine ⟨?_, accessedWithin_of_asks hp.asks_awaited w⟩
  -- a program that runs at once ends as it does when it is suspended and driven
  have hdriven : Drives bus p.run p.run := (movesWords_driven bus).run p
  rw [← hdriven w]
  exact accessedWithin_of_asks hp.asks w

/-- A memory that software may only write. -/
def Memory.fifo : Memory := ⟨⟨"top.fifo", 0x100, 4, 32, 32, .writeOnly⟩, 0⟩

/-- Fills two entries in a session, with a write of another entry in between, and tries to read. -/
def Program.refill : Program ℕ :=
  .session (.entries .fifo 0 2) .plain
    (fun copy => .perform (.writeEntry .fifo 3 7) fun _ => .done (.ok (copy.map (· + 1), ())))
    fun _ => .perform (.readEntry .fifo 0) .done

/-- The same with a session that is held, next to one that is refused. -/
def Client.refill : Client ℕ :=
  .opening (.entries .fifo 0 2) .plain fun _ =>
    .opening (.entries .fifo 0 4) .verified fun _ =>
      .perform (.writeEntry .fifo 3 7) fun _ =>
        .edit 0 (fun o copy => match o, copy with
          | .register _, copy => copy
          | .array _, copy | .entries .., copy => copy.map (· + 1))
          (.finish 0 fun _ => .perform (.readEntry .fifo 0) .done)

theorem fifo_is_not_read :
    let w : World Simulator := ⟨.new, (LockForest.empty.create none).1, []⟩
    (Program.refill.On (.memory .fifo) ∧ Client.refill.On (.memory .fifo)) ∧
      (Blocking.run Program.refill.run Simulator.toBus w).2.trace.map Call.kind =
        [.writeBlock, .writeBlock] ∧
      Device.AccessedWithin (.memory .fifo) w
        (Blocking.run Program.refill.run Simulator.toBus w).2 ∧
      Device.AccessedWithin (.memory .fifo) w
        (Suspended.run Simulator.toBus (Client.refill.run []) w).2 := by
  intro w
  have hprogram : Program.refill.On (.memory .fifo) :=
    ⟨rfl, fun _ => ⟨rfl, fun _ => trivial⟩, fun _ => ⟨rfl, fun _ => trivial⟩⟩
  have hclient : Client.refill.On (.memory .fifo) :=
    ⟨rfl, fun _ => ⟨rfl, fun _ => ⟨rfl, fun _ => fun _ => ⟨rfl, fun _ => trivial⟩⟩⟩⟩
  obtain ⟨hrun, hheld⟩ := calls_respect_rights (α := ℕ) Simulator.toBus (.memory .fifo) w
  exact ⟨⟨hprogram, hclient⟩, rfl, (hrun _ hprogram).1, hheld _ hclient⟩

end RegisterMap
