import RegisterMap.Fault

/-!
# Indices of arrays

An array has a list of dimensions, and its elements stand in row-major order: the last index moves
fastest.  This file converts between an index with one component for each dimension and the position
in that order, names elements by their index, and defines arrays of arbitrary elements.
-/

namespace RegisterMap

namespace Index

/-- Number of elements of an array. -/
def count (dimensions : List Nat) : Nat := dimensions.foldl (· * ·) 1

/-- The index has one component for each dimension, each below its dimension. -/
def inRange : (index dimensions : List Nat) → Bool
  | [], [] => true
  | i :: index, d :: dimensions => i < d && inRange index dimensions
  | _, _ => false

/-- Position of an index that is in range. -/
def position (index dimensions : List Nat) : Nat :=
  (index.zip dimensions).foldl (fun acc p => acc * p.2 + p.1) 0

/-- Row-major position of an index, which has to be in range. -/
def flatten (index dimensions : List Nat) : Except Fault Nat :=
  if inRange index dimensions then .ok (position index dimensions)
  else .error (.indexOutOfRange index dimensions)

/-- The index at a position, read off from the last dimension to the first.  The second component
is what remains of the position after the dimensions are used up. -/
def unflattenCarry (flat : Nat) : (dimensions : List Nat) → List Nat × Nat
  | [] => ([], flat)
  | d :: dimensions =>
    let (index, rest) := unflattenCarry flat dimensions
    (rest % d :: index, rest / d)

def unflatten (flat : Nat) (dimensions : List Nat) : List Nat := (unflattenCarry flat dimensions).1

/-- The suffix that names an element: its components in brackets. -/
def suffix (index : List Nat) : String := String.join (index.map fun i => s!"[{i}]")

end Index

/-! ## Arrays of nodes -/

/-- The elements of an array in row-major order. -/
structure NodeArray (α : Type) where
  dimensions : List Nat
  elements : List α
deriving Repr

namespace NodeArray

variable {α : Type}

/-- An array of given elements, as many as the dimensions ask for. -/
def ofList (dimensions : List Nat) (elements : List α) : Except Fault (NodeArray α) :=
  if elements.length = Index.count dimensions then .ok ⟨dimensions, elements⟩
  else .error (.lengthMismatch (Index.count dimensions) elements.length)

/-- An array whose elements are made from their position and index; the first failure ends it. -/
def tryOfFn {ε : Type} (dimensions : List Nat) (f : Nat → List Nat → Except ε α) :
    Except ε (NodeArray α) :=
  NodeArray.mk dimensions <$>
    (List.range (Index.count dimensions)).mapM fun flat => f flat (Index.unflatten flat dimensions)

/-- An array whose elements are made from their position and index. -/
def ofFn (dimensions : List Nat) (f : Nat → List Nat → α) : NodeArray α :=
  ⟨dimensions, (List.range (Index.count dimensions)).map fun flat =>
    f flat (Index.unflatten flat dimensions)⟩

def size (a : NodeArray α) : Nat := a.elements.length

def isEmpty (a : NodeArray α) : Bool := a.elements.isEmpty

/-- The element at an index.  An array that has fewer elements than its dimensions ask for has no
element at the missing positions either. -/
def get (a : NodeArray α) (index : List Nat) : Except Fault α := do
  let flat ← Index.flatten index a.dimensions
  match a.elements[flat]? with
  | some x => pure x
  | none => throw (.indexOutOfRange index a.dimensions)

end NodeArray

end RegisterMap
