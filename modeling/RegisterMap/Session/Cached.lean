import RegisterMap.Bus.Port

/-!
# Cached sessions

A session works on a copy of an object: it takes the object's lock, reads the whole object once,
lets the copy be edited in memory, and writes it back once.  An object that cannot be read starts
from a blank copy.  The write may be left out, and it may be verified by reading the object once
more and comparing.

`withCached` runs an edit inside the session and closes it whatever happens, so the lock is held
exactly as long as the session is open.
-/

namespace RegisterMap

/-- What a session does when it closes. -/
structure SessionOptions where
  /-- The copy is discarded instead of written back. -/
  skipWrite : Bool
  /-- The object is read back after the write and any difference is a fault. -/
  verify : Bool
deriving DecidableEq, Repr, Inhabited

namespace SessionOptions

def plain : SessionOptions := ⟨false, false⟩

def readOnly : SessionOptions := ⟨true, false⟩

def verified : SessionOptions := ⟨false, true⟩

end SessionOptions

/-- What a session needs to know about the object that it copies.  `S` is the type of copies. -/
structure SessionTarget (m : Type → Type) (S : Type) where
  /-- The name of the object, for the fault that its lock is taken. -/
  name : String
  lock : LockId
  /-- Whether the object can be opened at all. -/
  valid : Except Fault Unit
  readable : Except Fault Unit
  /-- The copy of an object that cannot be read. -/
  blank : S
  load : m S
  /-- Writes the whole object, with all checks of an ordinary write. -/
  store : S → m Unit
  /-- The values of a copy, in order. -/
  values : S → List Nat
  /-- The address of the first value. -/
  address : Nat
  /-- Bytes from one value to the next. -/
  stride : Nat

/-- Compares what was written with what was read back; the first difference is the fault. -/
def verifyValues (address stride : Nat) : (written actual : List Nat) → Except Fault Unit
  | w :: ws, a :: as =>
    if w = a then verifyValues (address + stride) stride ws as
    else .error (.verifyMismatch address w a)
  | _, _ => .ok ()

namespace SessionTarget

variable {m : Type → Type} [Port m] {S α : Type}

open Port

/-- The first copy of the object, once its lock is held. -/
def snapshot (t : SessionTarget m S) (options : SessionOptions) : m S := do
  decide t.valid
  if options.verify then decide t.readable
  match t.readable with
  | .ok () => t.load
  | .error _ => pure t.blank

/-- Writes a copy back as the options ask. -/
def writeBack (t : SessionTarget m S) (options : SessionOptions) (copy : S) : m Unit := do
  if options.skipWrite then return ()
  t.store copy
  if options.verify then
    let actual ← t.load
    decide (verifyValues t.address t.stride (t.values copy) (t.values actual))

/-- Runs an edit in a session.  The edit is given the copy and answers with the edited copy and a
result; if it fails, nothing is written. -/
def withCached (t : SessionTarget m S) (options : SessionOptions) (edit : S → m (S × α)) : m α :=
  holding t.lock t.name do
    let copy ← t.snapshot options
    let (edited, result) ← edit copy
    t.writeBack options edited
    return result

end SessionTarget

end RegisterMap
