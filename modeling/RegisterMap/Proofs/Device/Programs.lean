import Mathlib
import RegisterMap.Device.Operation

/-!
# Programs

A `Program` is what a user of devices can write.  It performs operations one after the other and may
look at the outcome of each, and it works on copies of objects in sessions, inside of which it
performs operations again.
-/

namespace RegisterMap

/-- A program with results of a type. -/
inductive Program : Type → Type 1 where
  | done {α : Type} (outcome : Except Fault α) : Program α
  /-- Goes on with the outcome of an operation. -/
  | perform {α : Type} (op : DeviceOperation) (next : Except Fault op.Result → Program α) :
      Program α
  /-- Goes on with the outcome of a session, whose body is given the copy of the object and answers
  with the edited copy and a result. -/
  | session {α β : Type} (o : Copied) (options : SessionOptions)
      (body : o.Snapshot → Program (o.Snapshot × β)) (next : Except Fault β → Program α) : Program α

/-- Runs a program; its sessions are closed when their bodies end. -/
def Program.run {m : Type → Type} [Port m] {α : Type} : Program α → m α
  | done outcome => Port.decide outcome
  | perform op next => do
    let outcome ← Port.attempt op.perform
    (next outcome).run
  | session o options body next => do
    let outcome ← Port.attempt (o.target.withCached options fun copy => (body copy).run)
    (next outcome).run

end RegisterMap
