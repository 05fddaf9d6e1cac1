/-!
# Session locks

A lock marks an object as having an open session.  Locks form a forest: the locks of the elements of
an array stand under the lock of the array.  A session on an object excludes sessions on the same
object, on its parent and on its children, while siblings stay independent.  To find open children
without visiting them, every lock counts the sessions on its children.

An attempt to take a lock first announces itself to the parent and looks at the rest afterwards, so
that of two attempts that exclude each other at most one can succeed; a refused attempt takes its
announcement back and leaves every lock as it was.
-/

namespace RegisterMap

/-- Names a lock of a forest. -/
abbrev LockId := Nat

/-- The state of one lock. -/
structure LockState where
  /-- A session on this object is open. -/
  active : Bool
  /-- Number of sessions that are open on children, attempts included. -/
  nested : Nat
  parent : Option LockId
deriving DecidableEq, Repr, Inhabited

/-- A forest of locks, each named by its place in the order of creation. -/
structure LockForest where
  states : Array LockState
deriving DecidableEq, Repr, Inhabited

namespace LockForest

def empty : LockForest := ⟨#[]⟩

/-- Creates a lock below `parent`, or a root, and names it. -/
def create (forest : LockForest) (parent : Option LockId) : LockForest × LockId :=
  (⟨forest.states.push ⟨false, 0, parent⟩⟩, forest.states.size)

/-- Creates `n` locks below one parent; they take the names that follow the existing ones. -/
def createChildren (forest : LockForest) (parent : LockId) : (n : Nat) → LockForest
  | 0 => forest
  | n + 1 => createChildren (forest.create (some parent)).1 parent n

def parent? (forest : LockForest) (id : LockId) : Option LockId :=
  forest.states[id]?.bind (·.parent)

/-- A session is open on the object of this lock. -/
def isActive (forest : LockForest) (id : LockId) : Bool := (forest.states[id]?.map (·.active)).getD false

/-- Number of sessions announced by the children of a lock. -/
def nested (forest : LockForest) (id : LockId) : Nat := (forest.states[id]?.map (·.nested)).getD 0

/-- Changes the state of one lock. -/
def update (forest : LockForest) (id : LockId) (f : LockState → LockState) : LockForest :=
  ⟨forest.states.modify id f⟩

/-- Opens or closes the mark of one lock. -/
def setActive (forest : LockForest) (id : LockId) (active : Bool) : LockForest :=
  forest.update id fun s => { s with active }

/-- Counts a session on this lock at its parent. -/
def announce (forest : LockForest) (id : LockId) : LockForest :=
  match forest.parent? id with
  | some p => forest.update p fun s => { s with nested := s.nested + 1 }
  | none => forest

def withdraw (forest : LockForest) (id : LockId) : LockForest :=
  match forest.parent? id with
  | some p => forest.update p fun s => { s with nested := s.nested - 1 }
  | none => forest

/-- The parent of a lock has an open session. -/
def parentActive (forest : LockForest) (id : LockId) : Bool :=
  match forest.parent? id with
  | some p => forest.isActive p
  | none => false

/-- Takes a lock, unless a session is open on its object, on the parent or on a child.  The first
component says whether the lock was taken. -/
def acquire (forest : LockForest) (id : LockId) : Bool × LockForest :=
  let announced := forest.announce id
  if announced.parentActive id || announced.isActive id then (false, announced.withdraw id)
  else
    let marked := announced.setActive id true
    if 0 < marked.nested id then (false, (marked.setActive id false).withdraw id)
    else (true, marked)

def release (forest : LockForest) (id : LockId) : LockForest :=
  (forest.setActive id false).withdraw id

end LockForest

end RegisterMap
