import Mathlib
import RegisterMap.Proofs.Bus.Suspended
import RegisterMap.Proofs.Device.Programs
import RegisterMap.Proofs.Device.RegisterContents

/-!
# The requests of an operation

What an operation can ask of its surroundings is bounded without a word about the bus, by the
judgement `Suspended.Asks` on the suspended operation.

Words are moved by the calls that `readCalls` and `writeCalls` list.  For whole operations a coarser
bound is enough, that they read only what software may read and write only what it may write
(`Allows`, `asks_perform`): no operation takes or gives back a lock.
-/

namespace RegisterMap

open Suspended

variable {P : Request → Prop}

/-! ## Words -/

namespace Transfer

variable {t : Transfer} {words : List ℕ}

lemma not_isWrite_of_mem_readCalls {block : Bool} {c : Call} (h : c ∈ t.readCalls block) :
    c.isWrite = false := by
  unfold readCalls at h
  split at h
  · rw [List.mem_singleton.1 h]
    rfl
  · obtain ⟨i, -, rfl⟩ := List.mem_map.1 h
    rfl

lemma isWrite_of_mem_writeCalls {block : Bool} {c : Call} (h : c ∈ t.writeCalls words block) :
    c.isWrite = true := by
  unfold writeCalls at h
  split at h
  · rw [List.mem_singleton.1 h]
    rfl
  · obtain ⟨p, -, rfl⟩ := List.mem_map.1 h
    rfl

lemma asks_readWords (hoffer : P .blockReads)
    (h : ∀ block, ∀ c ∈ t.readCalls block, P (.call c)) :
    Asks P (fun _ => True) t.readWords := by
  rw [readWords_eq]
  split
  · exact .pure trivial
  · refine .bind (.ask hoffer) fun block _ => ?_
    have hcalls := h block
    unfold readOffered
    unfold readCalls at hcalls
    split at hcalls
    · next hblock =>
      rw [if_pos hblock]
      refine .bind (.call (hcalls _ (List.mem_singleton_self _))) fun words _ => ?_
      split
      · exact .pure trivial
      · exact .fail _
    · next hblock =>
      rw [if_neg hblock]
      exact .mapM fun i hi => .call (hcalls _ (List.mem_map_of_mem hi))

lemma asks_writeWords (hoffer : P .blockWrites)
    (h : ∀ block, ∀ c ∈ t.writeCalls words block, P (.call c)) :
    Asks P (fun _ => True) (t.writeWords words) := by
  rw [writeWords_eq]
  split
  · exact .fail _
  · split
    · exact .pure trivial
    · refine .bind (.ask hoffer) fun block _ => ?_
      have hcalls := h block
      unfold writeOffered
      unfold writeCalls at hcalls
      split at hcalls
      · next hblock =>
        rw [if_pos hblock]
        exact .call (hcalls _ (List.mem_singleton_self _))
      · next hblock =>
        rw [if_neg hblock]
        exact .forM fun p hp => .call (hcalls _ (List.mem_map_of_mem hp))

end Transfer

namespace Register

variable {r : Register} {value : ℕ}

lemma not_isWrite_of_mem_readCalls {block : Bool} {c : Call} (h : c ∈ r.readCalls block) :
    c.isWrite = false := by
  unfold readCalls at h
  split at h
  · exact Transfer.not_isWrite_of_mem_readCalls h
  · rw [List.mem_singleton.1 h]
    rfl

lemma isWrite_of_mem_writeCalls {block : Bool} {c : Call} (h : c ∈ r.writeCalls value block) :
    c.isWrite = true := by
  unfold writeCalls at h
  split at h
  · exact Transfer.isWrite_of_mem_writeCalls h
  · rw [List.mem_singleton.1 h]
    rfl

lemma asks_physicalRead (hoffer : P .blockReads)
    (h : ∀ block, ∀ c ∈ r.readCalls block, P (.call c)) :
    Asks P (fun _ => True) r.physicalRead := by
  unfold physicalRead
  unfold readCalls at h
  split
  · next hwide =>
    simp only [hwide, if_true] at h
    exact .bind (Transfer.asks_readWords hoffer h) fun words _ => .pure trivial
  · next hwide =>
    simp only [hwide, Bool.false_eq_true, if_false] at h
    exact .call (h false _ (List.mem_singleton_self _))

lemma asks_physicalWrite (hoffer : P .blockWrites)
    (h : ∀ block, ∀ c ∈ r.writeCalls value block, P (.call c)) :
    Asks P (fun _ => True) (r.physicalWrite value) := by
  unfold physicalWrite
  unfold writeCalls at h
  split
  · next hwide =>
    simp only [hwide, if_true] at h
    exact Transfer.asks_writeWords hoffer h
  · next hwide =>
    simp only [hwide, Bool.false_eq_true, if_false] at h
    refine .bind (Q := fun word => word = value) (.decide fun word hword => ?_) fun word hword => ?_
    · unfold RegisterLayout.toWord at hword
      split at hword
      · cases hword
      · exact (Except.ok.inj hword).symm
    · subst hword
      exact .call (h false _ (List.mem_singleton_self _))

end Register

/-! ## Rights -/

/-- The requests include the calls in the directions that are allowed, whatever they access. -/
structure Allows (P : Request → Prop) (mayRead mayWrite : Bool) : Prop where
  blockReads : P .blockReads
  blockWrites : P .blockWrites
  reads : mayRead = true → ∀ c : Call, c.isWrite = false → P (.call c)
  writes : mayWrite = true → ∀ c : Call, c.isWrite = true → P (.call c)

namespace Allows

variable {mayRead mayWrite mayRead' mayWrite' : Bool}

lemma mono (h : Allows P mayRead mayWrite) (hread : mayRead' = true → mayRead = true)
    (hwrite : mayWrite' = true → mayWrite = true) : Allows P mayRead' mayWrite' :=
  ⟨h.blockReads, h.blockWrites, fun hmay => h.reads (hread hmay),
    fun hmay => h.writes (hwrite hmay)⟩

section Reads

variable (h : Allows P true mayWrite)
include h

lemma readWords (t : Transfer) : Asks P (fun _ => True) t.readWords :=
  Transfer.asks_readWords h.blockReads fun _ _ hc =>
    h.reads rfl _ (Transfer.not_isWrite_of_mem_readCalls hc)

lemma readValues (t : Transfer) : Asks P (fun _ => True) t.readValues := by
  unfold Transfer.readValues
  refine .bind (.decide fun _ _ => trivial) fun _ _ => ?_
  exact .bind (.mapM fun run _ => h.readWords run) fun words _ => .pure trivial

lemma physicalRead (r : Register) : Asks P (fun _ => True) r.physicalRead :=
  Register.asks_physicalRead h.blockReads fun _ _ hc =>
    h.reads rfl _ (Register.not_isWrite_of_mem_readCalls hc)

lemma physicalReadMemory (mem : Memory) (start count : ℕ) :
    Asks P (fun _ => True) (mem.physicalRead start count) :=
  .bind (.decide fun _ _ => trivial) fun _ _ => h.readValues _

end Reads

section Writes

variable (h : Allows P mayRead true)
include h

lemma writeWords (t : Transfer) (words : List ℕ) : Asks P (fun _ => True) (t.writeWords words) :=
  Transfer.asks_writeWords h.blockWrites fun _ _ hc =>
    h.writes rfl _ (Transfer.isWrite_of_mem_writeCalls hc)

lemma writeRuns (runs : List Transfer) (words : List ℕ) :
    Asks P (fun _ => True) (Transfer.writeRuns runs words) := by
  induction runs generalizing words with
  | nil => exact .pure trivial
  | cons run rest ih => exact .bind (h.writeWords run _) fun _ _ => ih _

lemma writeValues (t : Transfer) (values : List ℕ) :
    Asks P (fun _ => True) (t.writeValues values) := by
  unfold Transfer.writeValues
  refine .bind (.decide fun _ _ => trivial) fun _ _ => ?_
  exact .bind (.decide fun _ _ => trivial) fun words _ => h.writeRuns _ words

lemma physicalWrite (r : Register) (value : ℕ) :
    Asks P (fun _ => True) (r.physicalWrite value) :=
  Register.asks_physicalWrite h.blockWrites fun _ _ hc =>
    h.writes rfl _ (Register.isWrite_of_mem_writeCalls hc)

end Writes

end Allows

/-! ## Checks that come first -/

section Checks

variable {α : Type} {Q : α → Prop} {mayRead mayWrite : Bool}

/-- A check of a right that passes grants it. -/
lemma right_of_check {right : Bool} {e : Fault}
    (h : (if right then .ok () else .error e) = Except.ok ()) : right = true := by
  split at h
  · assumption
  · cases h

/-- A field write that is prepared names a field that software may write. -/
lemma RegisterLayout.writable_of_prepareWrite {r : RegisterLayout} {args : FieldValues}
    {prepared : WriteMask} (h : r.prepareWrite args = .ok prepared) : r.writable = true := by
  unfold prepareWrite at h
  cases args with
  | nil => cases h
  | cons arg rest =>
    rw [if_neg (by simp), List.foldlM_cons] at h
    -- the contribution of the first argument is enough
    cases hfirst : r.contribution arg with
    | error e =>
      rw [hfirst] at h
      cases h
    | ok first =>
      unfold contribution at hfirst
      cases hfield : r.field arg.1 with
      | error e =>
        rw [hfield] at hfirst
        cases hfirst
      | ok f =>
        rw [hfield] at hfirst
        change (if f.access.writable then _ else _) = _ at hfirst
        split at hfirst
        · next hwritable =>
          unfold field at hfield
          split at hfield
          · next hfind =>
            cases hfield
            exact List.any_eq_true.2 ⟨_, List.mem_of_find?_eq_some hfind, hwritable⟩
          · cases hfield
        · cases hfirst

/-- What follows a check is bounded by the right that the check grants. -/
lemma Allows.readThen {right : Bool} {check : Except Fault Unit} {f : Unit → Suspended α}
    (h : Allows P right mayWrite) (hcheck : check = .ok () → right = true)
    (hf : Allows P true mayWrite → Asks P Q (f ())) : Asks P Q (Port.decide check >>= f) :=
  .bind (Q := fun _ => right = true) (.decide fun _ hok => hcheck hok) fun _ hright =>
    hf (hright ▸ h)

lemma Allows.writeThen {right : Bool} {check : Except Fault α} {β : Type} {R : β → Prop}
    {f : α → Suspended β} (h : Allows P mayRead right) (hcheck : ∀ a, check = .ok a → right = true)
    (hf : ∀ a, Allows P mayRead true → Asks P R (f a)) : Asks P R (Port.decide check >>= f) :=
  .bind (Q := fun _ => right = true) (.decide hcheck) fun a hright => hf a (hright ▸ h)

end Checks

/-! ## Operations -/

namespace DeviceOperation

/-- Software may read the object of the operation.  Bare transfers know no rights. -/
def mayRead : DeviceOperation → Bool
  | readWords _ | writeWords .. | readValues _ | writeValues .. => true
  | readRegister r | writeRegister r _ | readFields r | writeFields r _ => r.layout.readable
  | readField f | readFieldValue f | readMember f _ => f.layout.access.readable
  | writeField f _ | writeMember f _ _ => f.register.layout.readable
  | readAll a | writeAll a _ | readFieldsAll a | readElements a | writeElements a _ =>
    a.layout.readable
  | readMemory mem .. | writeMemory mem .. | readEntry mem _ | writeEntry mem .. | readBuffer mem ..
  | writeBuffer mem .. | readBits mem .. | writeBits mem .. => mem.layout.access.readable

/-- Software may write the object of the operation. -/
def mayWrite : DeviceOperation → Bool
  | readWords _ | writeWords .. | readValues _ | writeValues .. => true
  | readRegister r | writeRegister r _ | readFields r | writeFields r _ => r.layout.writable
  | readField f | readFieldValue f | readMember f _ | writeField f _ | writeMember f _ _ =>
    f.register.layout.writable
  | readAll a | writeAll a _ | readFieldsAll a | readElements a | writeElements a _ =>
    a.layout.writable
  | readMemory mem .. | writeMemory mem .. | readEntry mem _ | writeEntry mem .. | readBuffer mem ..
  | writeBuffer mem .. | readBits mem .. | writeBits mem .. => mem.layout.access.writable

end DeviceOperation

namespace Allows

variable {mayRead mayWrite : Bool}

lemma readRegister (r : Register) (h : Allows P r.layout.readable mayWrite) :
    Asks P (fun _ => True) r.read :=
  h.readThen right_of_check fun h => h.physicalRead r

lemma writeRegister (r : Register) (value : ℕ) (h : Allows P mayRead r.layout.writable) :
    Asks P (fun _ => True) (r.write value) :=
  h.writeThen (fun _ => right_of_check) fun _ h =>
    .bind (.decide fun _ _ => trivial) fun _ _ => h.physicalWrite r value

lemma writeFields (r : Register) (args : FieldValues)
    (h : Allows P r.layout.readable r.layout.writable) :
    Asks P (fun _ => True) (r.writeFields args) := by
  unfold Register.writeFields
  refine h.writeThen (fun _ => RegisterLayout.writable_of_prepareWrite) fun prepared h => ?_
  refine .bind (.decide fun _ _ => trivial) fun _ _ => ?_
  split
  · next hreadable =>
    rw [hreadable] at h
    exact .bind (h.physicalRead r) fun base _ => h.physicalWrite r _
  · exact .bind (Q := fun _ => True) (.pure trivial) fun base _ => h.physicalWrite r _

lemma readField (f : Field) (h : Allows P f.layout.access.readable mayWrite) :
    Asks P (fun _ => True) f.read :=
  h.readThen right_of_check fun h =>
    .bind (h.physicalRead _) fun _ _ => .decide fun _ _ => trivial

lemma readAll (a : RegisterArray) (h : Allows P a.layout.readable mayWrite) :
    Asks P (fun _ => True) a.readAll :=
  h.readThen right_of_check fun h => h.readValues _

lemma writeAll (a : RegisterArray) (values : List ℕ) (h : Allows P mayRead a.layout.writable) :
    Asks P (fun _ => True) (a.writeAll values) :=
  h.writeThen (fun _ => right_of_check) fun _ h =>
    .bind (.decide fun _ _ => trivial) fun _ _ => h.writeValues _ values

lemma readMemory (mem : Memory) (start count : ℕ)
    (h : Allows P mem.layout.access.readable mayWrite) :
    Asks P (fun _ => True) (mem.read start count) :=
  h.readThen right_of_check fun h => h.physicalReadMemory mem start count

lemma writeMemory (mem : Memory) (start : ℕ) (values : List ℕ)
    (h : Allows P mayRead mem.layout.access.writable) :
    Asks P (fun _ => True) (mem.write start values) :=
  h.writeThen (fun _ => right_of_check) fun _ h =>
    .bind (.decide fun _ _ => trivial) fun _ _ =>
      .bind (.decide fun _ _ => trivial) fun _ _ => h.writeValues _ values

/-- An operation reads only what software may read, writes only what it may write, and leaves locks
alone. -/
theorem asks_perform (op : DeviceOperation) (h : Allows P op.mayRead op.mayWrite) :
    Asks P (fun _ => True) op.perform := by
  cases op with
  | readWords t => exact h.readWords t
  | writeWords t words => exact h.writeWords t words
  | readValues t => exact h.readValues t
  | writeValues t values => exact h.writeValues t values
  | readRegister r => exact readRegister r h
  | writeRegister r value => exact writeRegister r value h
  | readFields r => exact .bind (readRegister r h) fun raw _ => .decide fun _ _ => trivial
  | writeFields r args => exact writeFields r args h
  | readField f => exact readField f h
  | readFieldValue f =>
    exact readThen h right_of_check fun h =>
      .bind (h.physicalRead _) fun raw _ => .decide fun _ _ => trivial
  | writeField f value => exact writeFields f.register _ h
  | readMember f α =>
    refine .bind (readField f h) fun value _ => ?_
    split
    · exact .pure trivial
    · exact .fail _
  | writeMember f α a => exact writeFields f.register _ h
  | readAll a => exact readAll a h
  | writeAll a values => exact writeAll a values h
  | readFieldsAll a => exact .bind (readAll a h) fun values _ => .decide fun _ _ => trivial
  | readElements a => exact .bind (readAll a h) fun values _ => .pure trivial
  | writeElements a buffer => exact writeAll a _ h
  | readMemory mem start count => exact readMemory mem start count h
  | writeMemory mem start values => exact writeMemory mem start values h
  | readEntry mem index => exact .bind (readMemory mem index 1 h) fun values _ => .pure trivial
  | writeEntry mem index value => exact writeMemory mem index [value] h
  | readBuffer mem start count =>
    exact .bind (readMemory mem start count h) fun values _ => .pure trivial
  | writeBuffer mem start buffer => exact writeMemory mem start _ h
  | readBits mem start count =>
    exact .bind (readMemory mem start count h) fun values _ => .pure trivial
  | writeBits mem start bits =>
    change Asks P _ (mem.writeBits start bits)
    unfold Memory.writeBits
    dsimp only
    split
    · exact writeMemory mem start _ h
    · exact .fail _

end Allows

/-! ## Sessions -/

namespace SessionTarget

variable {S : Type} {t : SessionTarget Suspended S} (options : SessionOptions)

/-- The first copy takes a read of the object only if software may read it. -/
lemma asks_snapshot (hload : t.readable = .ok () → Asks P (fun _ => True) t.load) :
    Asks P (fun _ => options.verify = true → t.readable = .ok ()) (t.snapshot options) := by
  unfold snapshot
  refine .bind (Q := fun _ => True) (.decide fun _ _ => trivial) fun _ _ => ?_
  -- an object that cannot be read is refused when it is to be verified
  cases hreadable : t.readable with
  | ok _ =>
    have hrest {Q : S → Prop} (hQ : ∀ copy, Q copy) : Asks P Q t.load :=
      (hload hreadable).mono (fun _ => id) fun copy _ => hQ copy
    cases options.verify with
    | false => exact hrest fun _ _ => rfl
    | true =>
      exact .bind (Q := fun _ => True) (.decide fun _ _ => trivial) fun _ _ => hrest fun _ _ => rfl
  | error e =>
    cases options.verify with
    | false => exact .pure nofun
    | true => exact .fail e

/-- A copy is read back only if the session is verified. -/
lemma asks_writeBack (hstore : ∀ copy, Asks P (fun _ => True) (t.store copy))
    (hload : options.verify = true → Asks P (fun _ => True) t.load) (copy : S) :
    Asks P (fun _ => True) (t.writeBack options copy) := by
  unfold writeBack
  split
  · exact .pure trivial
  · refine .bind (hstore copy) fun _ _ => ?_
    split
    · next hverify =>
      exact .bind (hload hverify) fun actual _ => .decide fun _ _ => trivial
    · exact .pure trivial

end SessionTarget

namespace Copied

/-- Software may read the object. -/
def mayRead : Copied → Bool
  | register r => r.layout.readable
  | array a => a.layout.readable
  | entries mem .. => mem.layout.access.readable

/-- Software may write the object. -/
def mayWrite : Copied → Bool
  | register r => r.layout.writable
  | array a => a.layout.writable
  | entries mem .. => mem.layout.access.writable

lemma mayRead_of_readable {m : Type → Type} [Port m] {o : Copied}
    (h : (o.target (m := m)).readable = .ok ()) : o.mayRead = true := by
  cases o <;> exact right_of_check h

variable {mayRead mayWrite : Bool}

lemma asks_load (h : Allows P true mayWrite) (o : Copied) :
    Asks P (fun _ => True) (o.target (m := Suspended)).load := by
  cases o with
  | register r => exact h.physicalRead r
  | array a => exact h.readValues _
  | entries mem start count => exact h.physicalReadMemory mem start count

lemma asks_store (o : Copied) (h : Allows P mayRead o.mayWrite) (copy : o.Snapshot) :
    Asks P (fun _ => True) ((o.target (m := Suspended)).store copy) := by
  cases o with
  | register r => exact Allows.writeRegister r copy h
  | array a => exact Allows.writeAll a copy h
  | entries mem start count => exact Allows.writeMemory mem start copy h

end Copied

end RegisterMap
