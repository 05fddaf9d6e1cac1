import Mathlib
import RegisterMap.Proofs.Device.Asynchronous

/-!
# Sessions as handles

A handle is opened, its copy is edited, and in the end it is finished or dropped.  What opening and
finishing do between taking the lock and giving it back is written out for registers, arrays and
memories, and comes to the first copy and the writing back of the object (`Copied.openAsync_eq`,
`Copied.finish_eq`).

Finishing a session on a range reads back as many entries as the copy has.  These are the entries of
the range as long as edits keep the number of values (`Copied.SameSize`), because the session opened
with a copy that was read from the range (`Handle.load_eq`).
-/

namespace RegisterMap

open Port Suspended

/-! ## Locks -/

section Locks

variable {σ α : Type} {bus : Bus σ} {P : Request → Prop} {Q : α → Prop} {body : Suspended α}

/-- The world with a lock given back. -/
def World.released (w : World σ) (lock : LockId) : World σ :=
  { w with locks := w.locks.release lock }

lemma perform_acquire (lock : LockId) (w : World σ) : Request.perform bus w (.acquire lock) =
    ((w.locks.acquire lock).1, { w with locks := (w.locks.acquire lock).2 }) := rfl

lemma run_locking (lock : LockId) (name : String) (body : Suspended α) (w : World σ) :
    Suspended.run bus (locking lock name body) w =
      match w.locks.acquire lock with
      | (true, locks) =>
        match Suspended.run bus body { w with locks } with
        | (.ok a, w') => (.ok a, w')
        | (.error e, w') => (.error e, w'.released lock)
      | (false, locks) => (.error (.sessionActive name), { w with locks }) := by
  unfold locking
  rw [run_askThen, perform_acquire]
  rcases w.locks.acquire lock with ⟨_ | _, locks⟩
  · rfl
  · simp only [if_true]
    rw [run_attemptThen]
    rcases Suspended.run bus body { w with locks } with ⟨_ | a, w'⟩ <;> rfl

lemma run_unlocking (lock : LockId) (body : Suspended α) (w : World σ) :
    Suspended.run bus (unlocking lock body) w =
      ((Suspended.run bus body w).1, (Suspended.run bus body w).2.released lock) := by
  unfold unlocking
  rw [run_attemptThen, run_askThen]
  cases (Suspended.run bus body w).1 <;> rfl

lemma asks_locking {lock : LockId} {name : String} (hacquire : P (.acquire lock))
    (hrelease : P (.release lock)) (hbody : Asks P Q body) : Asks P Q (locking lock name body) := by
  unfold locking
  refine .bind (.ask hacquire) fun taken _ => ?_
  split
  · refine .bind (.attempt hbody) fun outcome houtcome => ?_
    cases outcome with
    | ok a => exact .pure (houtcome a rfl)
    | error e => exact .bind (.ask hrelease) fun _ _ => .fail e
  · exact .fail _

lemma asks_unlocking {lock : LockId} (hrelease : P (.release lock)) (hbody : Asks P Q body) :
    Asks P Q (unlocking lock body) := by
  unfold unlocking
  refine .bind (.attempt hbody) fun outcome houtcome => ?_
  exact .bind (.ask hrelease) fun _ _ => .decide houtcome

end Locks

/-! ## Objects -/

namespace Handle

variable {o : Copied}

/-- The object as it is read back: of a range, as many entries as the copy has. -/
def target : {o : Copied} → Handle o → SessionTarget Suspended o.Snapshot
  | .register r, _ => r.target
  | .array a, _ => a.target
  | .entries mem start _, s => mem.target start (List.length s.copy)

end Handle

namespace Copied

/-- A session opens with the first copy of its object. -/
lemma openAsync_eq (o : Copied) (options : SessionOptions) : o.openAsync options =
    locking o.lock (o.target (m := Suspended)).name
      ((⟨options, ·⟩ : o.Snapshot → Handle o) <$> o.target.snapshot options) := by
  cases o with
  | register r =>
    change locking r.lock _ _ = locking r.lock _ _
    congr 1
    rw [Register.physicalReadAsync_eq]
    unfold SessionTarget.snapshot target Register.target RegisterLayout.checkReadable
    dsimp only
    cases r.layout.readable <;> cases options.verify <;> rfl
  | array a =>
    change locking a.lock _ _ = locking a.lock _ _
    congr 1
    unfold RegisterArray.physicalReadAllAsync
    rw [Transfer.readValuesAsync_eq]
    unfold SessionTarget.snapshot target RegisterArray.target RegisterLayout.checkReadable
    dsimp only
    cases a.layout.readable <;> cases options.verify <;> rfl
  | entries mem start count =>
    change locking mem.lock _ _ = locking mem.lock _ _
    congr 1
    rw [Memory.decide_checkedTransfer]
    unfold SessionTarget.snapshot target Memory.target Memory.physicalRead
      MemoryLayout.checkReadable
    dsimp only
    rw [Transfer.readValuesAsync_eq]
    cases mem.layout.checkRange start count with
    | error e => rfl
    | ok _ => cases mem.layout.access.readable <;> cases options.verify <;> rfl

/-- A session ends with the writing back of its copy. -/
lemma finish_eq {o : Copied} (s : Handle o) :
    s.finish = unlocking o.lock (s.target.writeBack s.options s.copy) := by
  cases o with
  | register r =>
    change unlocking r.lock _ = unlocking r.lock _
    congr 1
    rw [Register.writeAsync_eq, Register.physicalReadAsync_eq]
    rfl
  | array a =>
    change unlocking a.lock _ = unlocking a.lock _
    congr 1
    unfold RegisterArray.physicalReadAllAsync
    rw [RegisterArray.writeAllAsync_eq, Transfer.readValuesAsync_eq]
    rfl
  | entries mem start count =>
    change unlocking mem.lock _ = unlocking mem.lock _
    congr 1
    simp only [Memory.writeAsync_eq, Memory.decide_checkedTransfer, Transfer.readValuesAsync_eq]
    unfold SessionTarget.writeBack
    split
    · rfl
    refine bind_congr fun _ => ?_
    split
    · exact (bind_assoc _ _ _).symm
    · rfl

end Copied

/-! ## Reading back -/

namespace Transfer

variable {t : Transfer}

/-- Entries of no words are read without asking for anything. -/
lemma readValues_of_no_words (h : t.wordsPerEntry = 0) :
    (t.readValues : Suspended (List ℕ)) = Port.decide t.checkWidths >>= fun _ => pure [] := by
  have hempty : ∀ run ∈ t.wordTransfers, run.entries = 0 := by
    intro run hrun
    unfold wordTransfers at hrun
    rw [h, if_neg Nat.zero_ne_one] at hrun
    split at hrun
    · rw [List.mem_singleton.1 hrun]
      rfl
    · obtain ⟨i, -, rfl⟩ := List.mem_map.1 hrun
      rfl
  have hruns : ∀ runs : List Transfer, (∀ run ∈ runs, run.entries = 0) →
      (runs.mapM fun run => (run.readWords : Suspended (List ℕ))) =
        pure (List.replicate runs.length []) := by
    intro runs hzero
    induction runs with
    | nil => rfl
    | cons run rest ih =>
      rw [List.mapM_cons, readWords_eq, if_pos (hzero run List.mem_cons_self), pure_bind,
        ih fun run hrun => hzero run (List.mem_cons_of_mem _ hrun)]
      rfl
  unfold readValues
  refine bind_congr fun _ => ?_
  rw [hruns _ hempty, pure_bind]
  unfold joinEntries
  rw [h, if_neg Nat.zero_ne_one, groupsOf]
  simp

end Transfer

namespace Copied

/-- The copy is one that the object was read into. -/
def Loaded : (o : Copied) → o.Snapshot → Prop
  | register _, _ | array _, _ => True
  | entries mem start count, copy => mem.layout.checkRange start count = .ok () ∧
      List.length copy = (mem.layout.transfer start count).readCount

/-- The copy has as many values as another one. -/
def SameSize (o : Copied) (edited copy : o.Snapshot) : Prop :=
  (o.values edited).length = (o.values copy).length

variable {o : Copied} {copy edited : o.Snapshot}

lemma Loaded.sameSize (h : o.Loaded copy) (hsize : o.SameSize edited copy) : o.Loaded edited := by
  cases o with
  | register | array => trivial
  | entries mem start count => exact ⟨h.1, Eq.trans hsize h.2⟩

end Copied

/-- As many entries as there are values in a copy that was read are the entries of the range. -/
lemma Handle.load_eq {o : Copied} {s : Handle o} (h : o.Loaded s.copy) :
    s.target.load = (o.target (m := Suspended)).load := by
  cases o with
  | register | array => rfl
  | entries mem start count =>
    obtain ⟨hrange, hlength⟩ := h
    change mem.physicalRead start (List.length s.copy) = mem.physicalRead start count
    rw [hlength]
    unfold Transfer.readCount
    split
    · next hwords =>
      have hnone : mem.layout.checkRange start 0 = .ok () := by
        unfold MemoryLayout.checkRange at hrange ⊢
        split at hrange
        · cases hrange
        · exact if_neg (by omega)
      unfold Memory.physicalRead
      rw [hrange, hnone, Transfer.readValues_of_no_words hwords,
        Transfer.readValues_of_no_words (t := mem.layout.transfer start 0) hwords]
      rfl
    · rfl

/-- A copy of the size with which a session opened is written back as that of the object. -/
lemma Handle.writeBack_eq {o : Copied} {s : Handle o}
    (h : s.options.verify = true → o.Loaded s.copy) :
    s.target.writeBack s.options s.copy =
      (o.target (m := Suspended)).writeBack s.options s.copy := by
  unfold SessionTarget.writeBack
  split
  · rfl
  cases hverify : s.options.verify with
  | false => cases o <;> rfl
  | true =>
    rw [Handle.load_eq (h hverify)]
    cases o <;> rfl

/-! ## Sessions -/

namespace Copied

variable {α : Type} (o : Copied) (options : SessionOptions)

/-- A session that is opened, worked on and then finished, or dropped when the work fails. -/
def sessionAsync (edit : o.Snapshot → Suspended (o.Snapshot × α)) : Suspended α := do
  let s ← o.openAsync options
  match ← attempt (edit s.copy) with
  | .ok (copy, result) => do
    ({ s with copy } : Handle o).finish
    return result
  | .error e => do
    s.drop
    fail e

end Copied

/-- Edits one after the other, up to the first one that fails. -/
def editCopies {S α : Type} :
    List (S → Except Fault (S × α)) → S → Except Fault (S × List α)
  | [], copy => .ok (copy, [])
  | f :: rest, copy => do
    let (copy, result) ← f copy
    let (copy, results) ← editCopies rest copy
    pure (copy, result :: results)

/-- Edits that keep the size of copies keep it together. -/
lemma Copied.SameSize.editCopies {o : Copied} {α : Type}
    {edits : List (o.Snapshot → Except Fault (o.Snapshot × α))}
    (h : ∀ f ∈ edits, ∀ copy edited result, f copy = .ok (edited, result) → o.SameSize edited copy)
    {copy edited : o.Snapshot} {results : List α}
    (hedits : RegisterMap.editCopies edits copy = .ok (edited, results)) :
    o.SameSize edited copy := by
  induction edits generalizing copy results with
  | nil =>
    obtain ⟨rfl, -⟩ := Prod.mk.inj (Except.ok.inj hedits)
    rfl
  | cons f rest ih =>
    unfold RegisterMap.editCopies at hedits
    obtain ⟨⟨next, result⟩, hnext, hedits⟩ := bind_eq_ok.1 hedits
    obtain ⟨⟨last, results⟩, hlast, hedits⟩ := bind_eq_ok.1 hedits
    obtain ⟨rfl, -⟩ := Prod.mk.inj (Except.ok.inj hedits)
    have hstep := h f List.mem_cons_self _ _ _ hnext
    exact (ih (fun f hf => h f (List.mem_cons_of_mem _ hf)) hlast).trans hstep

end RegisterMap
