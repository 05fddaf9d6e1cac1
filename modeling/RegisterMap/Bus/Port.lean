import RegisterMap.Fault
import RegisterMap.Session.Lock

/-!
# Buses and the two flavours of operations

A bus answers four physical accesses: single and block reads and writes.  It is given by a state and
by arbitrary answers, so it may refuse calls, answer blocks of the wrong length, or change its mind;
nothing is assumed of it.  The world of an operation is the state of the bus, the locks of open
sessions, and the trace of all calls in order.

Operations on devices are written once, for every monad that is a `Port`: a way to issue requests
and to fail.  There are two ports.  A `Blocking` operation runs against a bus at once.  A
`Suspended` operation is a program that stops at each request and is resumed with the reply, and
`Suspended.run` drives it to completion.
-/

namespace RegisterMap

/-! ## Calls and buses -/

/-- One physical access.  Addresses are in bytes, widths in bits. -/
inductive Call where
  | read (address width accessWidth : Nat)
  | write (address width accessWidth data : Nat)
  | readBlock (address width accessWidth length : Nat)
  | writeBlock (address width accessWidth : Nat) (data : List Nat)
deriving DecidableEq, Repr

namespace Call

abbrev Reply : Call → Type
  | read .. => Nat
  | write .. => Unit
  | readBlock .. => List Nat
  | writeBlock .. => Unit

/-- Which of the four accesses a call is. -/
def kind : Call → CallKind
  | read .. => .read
  | write .. => .write
  | readBlock .. => .readBlock
  | writeBlock .. => .writeBlock

/-- The address at which a call starts. -/
def address : Call → Nat
  | read a _ _ => a
  | write a _ _ _ => a
  | readBlock a _ _ _ => a
  | writeBlock a _ _ _ => a

/-- The call changes the hardware if it succeeds. -/
def isWrite : Call → Bool
  | write .. | writeBlock .. => true
  | read .. | readBlock .. => false

end Call

/-- The behaviour of a bus with states `σ`. -/
structure Bus (σ : Type) where
  /-- The answer to a call and the state after it. -/
  answer : (c : Call) → σ → Except Fault c.Reply × σ
  blockReads : σ → Bool
  blockWrites : σ → Bool

namespace Bus

/-- A bus that carries a further component in its state and leaves it alone. -/
def withNotes {σ τ : Type} (bus : Bus σ) : Bus (σ × τ) where
  answer c s :=
    let (reply, state) := bus.answer c s.1
    (reply, (state, s.2))
  blockReads s := bus.blockReads s.1
  blockWrites s := bus.blockWrites s.1

end Bus

/-- Everything that operations act on. -/
structure World (σ : Type) where
  bus : σ
  locks : LockForest
  /-- The calls that were made, in order. -/
  trace : List Call

/-! ## Requests -/

/-- What an operation asks of its surroundings. -/
inductive Request where
  | call (c : Call)
  | blockReads
  | blockWrites
  /-- To take a lock; the reply says whether it was taken. -/
  | acquire (lock : LockId)
  | release (lock : LockId)

namespace Request

abbrev Reply : Request → Type
  | call c => Except Fault c.Reply
  | blockReads => Bool
  | blockWrites => Bool
  | acquire _ => Bool
  | release _ => Unit

/-- Carries out a request.  A call is recorded whether or not it succeeds. -/
def perform {σ : Type} (bus : Bus σ) (w : World σ) : (q : Request) → q.Reply × World σ
  | call c =>
    let (reply, state) := bus.answer c w.bus
    (reply, { w with bus := state, trace := w.trace ++ [c] })
  | blockReads => (bus.blockReads w.bus, w)
  | blockWrites => (bus.blockWrites w.bus, w)
  | acquire lock =>
    let (taken, locks) := w.locks.acquire lock
    (taken, { w with locks })
  | release lock => ((), { w with locks := w.locks.release lock })

end Request

/-! ## Ports -/

/-- A monad in which operations can issue requests and fail. -/
class Port (m : Type → Type) extends Monad m where
  ask : (q : Request) → m q.Reply
  fail : {α : Type} → Fault → m α
  /-- Runs an operation and gives its outcome, failure included, as a value. -/
  attempt : {α : Type} → m α → m (Except Fault α)

namespace Port

variable {m : Type → Type} [Port m] {α : Type}

/-- Goes on with a value that was decided without the bus. -/
def decide (outcome : Except Fault α) : m α :=
  match outcome with
  | .ok a => pure a
  | .error e => fail e

def call (c : Call) : m c.Reply := do
  let reply : Except Fault c.Reply ← ask (.call c)
  decide reply

def blockReads : m Bool := ask .blockReads

def blockWrites : m Bool := ask .blockWrites

/-- Runs an operation while holding a lock, which is given back whether the operation succeeds or
not.  Without the lock the operation does not start. -/
def holding (lock : LockId) (name : String) (body : m α) : m α := do
  let taken : Bool ← ask (.acquire lock)
  if taken then
    let outcome ← attempt body
    let _ : Unit ← ask (.release lock)
    decide outcome
  else fail (.sessionActive name)

end Port

/-! ## Blocking operations -/

/-- An operation that runs against a bus at once. -/
def Blocking (σ α : Type) : Type := Bus σ → World σ → Except Fault α × World σ

namespace Blocking

variable {σ α β : Type}

def run (x : Blocking σ α) (bus : Bus σ) (w : World σ) : Except Fault α × World σ := x bus w

/-- One operation after another; a failure ends the whole. -/
def bind (x : Blocking σ α) (f : α → Blocking σ β) : Blocking σ β := fun bus w =>
  match x bus w with
  | (.ok a, w') => f a bus w'
  | (.error e, w') => (.error e, w')

instance : Monad (Blocking σ) where
  pure a := fun _ w => (.ok a, w)
  bind := bind

instance : Port (Blocking σ) where
  ask q := fun bus w =>
    let (reply, w') := q.perform bus w
    (.ok reply, w')
  fail e := fun _ w => (.error e, w)
  attempt x := fun bus w =>
    let (outcome, w') := x bus w
    (.ok outcome, w')

end Blocking

/-! ## Suspended operations -/

/-- A program that stops at each request and is resumed with the reply. -/
inductive Suspended (α : Type) : Type where
  | done (outcome : Except Fault α)
  /-- The program waits for the reply to a request. -/
  | await (q : Request) (resume : q.Reply → Suspended α)

namespace Suspended

variable {σ α β : Type}

/-- One program after another, given what to do with the outcome of the first. -/
def onDone (f : Except Fault α → Suspended β) : Suspended α → Suspended β
  | done outcome => f outcome
  | await q resume => await q fun reply => onDone f (resume reply)

/-- One program after another; a failure ends the whole. -/
def bind (x : Suspended α) (f : α → Suspended β) : Suspended β :=
  x.onDone fun
    | .ok a => f a
    | .error e => done (.error e)

instance : Monad Suspended where
  pure a := done (.ok a)
  bind := bind

instance : Port Suspended where
  ask q := await q fun reply => done (.ok reply)
  fail e := done (.error e)
  attempt x := x.onDone fun outcome => done (.ok outcome)

/-- Drives a program to completion, carrying out each request as it comes. -/
def run (bus : Bus σ) : Suspended α → World σ → Except Fault α × World σ
  | done outcome, w => (outcome, w)
  | await q resume, w =>
    let (reply, w') := q.perform bus w
    run bus (resume reply) w'

end Suspended

end RegisterMap
