import RegisterMap.Device.Asynchronous

/-!
# Scripts

A script is a list of steps on devices: operations, looks at the state of the bus, and sessions with
steps of their own inside.  Running a step gives a record of what happened; a failed step does not
stop the script, but inside a session it ends the session, unless the step is marked to be caught.
The record of a session lists the records of the steps that ran inside it, whether the session
succeeded or not.

Operations run in either flavour.  Sessions around inner steps are blocking; sessions that are opened
by one step and finished or dropped by a later one are asynchronous.
-/

namespace RegisterMap

/-- The copies of all objects as lists of values. -/
abbrev Copy := List Nat

/-- What happened in a step. -/
inductive Record (V : Type) where
  | done (value : V)
  | failed (e : Fault)
  /-- The step was a session that succeeded. -/
  | closed (inner : List (Record V))
  /-- The step was a session that failed. -/
  | aborted (e : Fault) (inner : List (Record V))
  /-- The step names a session that is not open. -/
  | noSession
deriving Inhabited

/-- The fault of a failed step. -/
def Record.fault? {V : Type} : Record V → Option Fault
  | failed e | aborted e _ => some e
  | _ => none

def Record.ofOutcome {V : Type} : Except Fault V → Record V
  | .ok v => done v
  | .error e => failed e

/-- The state of the bus together with the records of the steps inside each running session,
innermost session first, last step first. -/
abbrev Noted (σ V : Type) := σ × List (List (Record V))

/-- One step of a script on a bus with states `σ`. -/
inductive Step (σ V : Type) where
  | known (outcome : Except Fault V)
  /-- A session on an object that does not exist. -/
  | unopened (e : Fault)
  /-- An operation, in both flavours. -/
  | operate (blocking : Blocking (Noted σ V) V) (suspended : Suspended V)
  /-- A look at the state of the bus, or a change of it, that is not a physical access. -/
  | inspect (f : σ → σ × V)
  | edit (f : Copy → Except Fault (Copy × V))
  /-- A session around inner steps, each of them with the mark that its failure is caught. -/
  | session (object : Copied) (options : SessionOptions) (steps : List (Bool × Step σ V))
  | openAs (id : String) (object : Copied) (options : SessionOptions) (value : V)
  /-- An edit of the copy of an open session, given the lock that tells which object it copies. -/
  | editOf (id : String) (f : LockId → Copy → Except Fault (Copy × V))
  | finish (id : String) (value : V)
  | drop (id : String) (value : V)

/-- The state between steps. -/
structure Bench (σ V : Type) where
  /-- The world, with the records of the steps inside running sessions. -/
  world : World (Noted σ V)
  /-- The sessions that are open by name. -/
  sessions : List (String × OpenSession)

namespace Step

variable {σ V : Type}

abbrev noted (V : Type) (bus : Bus σ) : Bus (Noted σ V) := bus.withNotes

/-- Adds a record to those of the innermost running session. -/
def note (r : Record V) (w : World (Noted σ V)) :
    World (Noted σ V) :=
  match w.bus.2 with
  | top :: rest => { w with bus := (w.bus.1, (r :: top) :: rest) }
  | [] => w

/-- The step of an operation on a device; it gives what is made of the result. -/
def device (op : DeviceOperation) (f : op.Result → V) : Step σ V :=
  operate (f <$> op.perform) (f <$> op.performAsync)

/-- The step of a call, which does not depend on the flavour. -/
def call (c : Call) (f : c.Reply → V) : Step σ V := operate (f <$> Port.call c) (f <$> Port.call c)

mutual

/-- Runs a step that does not use sessions by name. -/
def run (suspended : Bool) (bus : Bus σ) (step : Step σ V) (w : World (Noted σ V)) :
    Record V × World (Noted σ V) :=
  match step with
  | known outcome => (.ofOutcome outcome, w)
  | unopened e => (.aborted e [], w)
  | operate blocking awaited =>
    let (r, w) :=
      if suspended then Suspended.run (noted V bus) awaited w else blocking.run (noted V bus) w
    (.ofOutcome r, w)
  | inspect f =>
    let (state, v) := f w.bus.1
    (.done v, { w with bus := (state, w.bus.2) })
  | session object options steps =>
    let w := { w with bus := (w.bus.1, [] :: w.bus.2) }
    let edit (copy : object.Snapshot) : Blocking (Noted σ V) (object.Snapshot × Unit) := fun _ w =>
      let (r, w) := runInner suspended bus steps (object.values copy) w
      (r.map fun values => (object.ofValues values, ()), w)
    let (r, w) := (object.target.withCached options edit).run (noted V bus) w
    let inner := (w.bus.2.headD []).reverse
    let w := { w with bus := (w.bus.1, w.bus.2.tail) }
    match r with
    | .ok () => (.closed inner, w)
    | .error e => (.aborted e inner, w)
  | edit _ | openAs .. | editOf .. | finish .. | drop .. => (.noSession, w)

/-- Runs the steps inside a session on its copy. -/
def runInner (suspended : Bool) (bus : Bus σ) (steps : List (Bool × Step σ V)) (copy : Copy)
    (w : World (Noted σ V)) :
    Except Fault Copy × World (Noted σ V) :=
  match steps with
  | [] => (.ok copy, w)
  | (caught, edit f) :: rest =>
    match f copy with
    | .ok (edited, v) => runInner suspended bus rest edited (note (.done v) w)
    | .error e =>
      let w := note (.failed e) w
      if caught then runInner suspended bus rest copy w else (.error e, w)
  | (caught, step) :: rest =>
    let (r, w) := run suspended bus step w
    let w := note r w
    match r.fault?, caught with
    | some e, false => (.error e, w)
    | _, _ => runInner suspended bus rest copy w

end

end Step

namespace Bench

variable {σ V : Type}

/-- The world of a bench before its first step. -/
def start (state : σ) (locks : LockForest) : Bench σ V := ⟨⟨(state, []), locks, []⟩, []⟩

/-- Runs a suspended operation. -/
def runSuspended {α : Type} (bus : Bus σ) (op : Suspended α) (b : Bench σ V) :
    Except Fault α × Bench σ V :=
  let (r, world) := Suspended.run (Step.noted V bus) op b.world
  (r, { b with world })

/-- The sessions without the one of a name. -/
def without (b : Bench σ V) (id : String) : Bench σ V :=
  { b with sessions := b.sessions.filter (·.1 != id) }

/-- Drops the session of a name, if it is open. -/
def dropNamed (bus : Bus σ) (b : Bench σ V) (id : String) : Bench σ V :=
  match b.sessions.lookup id with
  | some s => (b.runSuspended bus s.handle.drop).2.without id
  | none => b

/-- Runs a step of a script and gives the calls that it made. -/
def step (suspended : Bool) (bus : Bus σ) (s : Step σ V) (b : Bench σ V) :
    Record V × List Call × Bench σ V :=
  let b := { b with world := { b.world with trace := [] } }
  let (r, b) : Record V × Bench σ V :=
    match s with
    | .openAs id object options value =>
      match b.runSuspended bus (object.openAsync options) with
      | (.error e, b) => (.failed e, b)
      | (.ok handle, b) =>
        let b := b.dropNamed bus id
        (.done value, { b with sessions := (id, ⟨object, handle⟩) :: b.sessions })
    | .editOf id f =>
      match b.sessions.lookup id with
      | none => (.noSession, b)
      | some ⟨object, handle⟩ =>
        let edit (copy : object.Snapshot) := do
          let (values, v) ← f object.lock (object.values copy)
          pure (object.ofValues values, v)
        match handle.edit edit with
        | .ok (handle, v) =>
          (.done v, { b with sessions := (id, ⟨object, handle⟩) :: (b.without id).sessions })
        | .error e => (.failed e, b)
    | .finish id value =>
      match b.sessions.lookup id with
      | none => (.noSession, b)
      | some session =>
        let (r, b) := (b.without id).runSuspended bus session.handle.finish
        (.ofOutcome (r.map fun _ => value), b)
    | .drop id value =>
      match b.sessions.lookup id with
      | none => (.noSession, b)
      | some _ => (.done value, b.dropNamed bus id)
    | other =>
      let (r, world) := other.run suspended bus b.world
      (r, { b with world })
  (r, b.world.trace, b)

end Bench

end RegisterMap
