import RegisterMap.Device.Register
import RegisterMap.Device.TypedBuffer
import RegisterMap.Index

/-!
# Register arrays on a bus

An array holds identical registers a fixed stride apart.  It is accessed as a whole, through one
transfer, or element by element; the address of an element is the same either way.  Every element
has a lock of its own below the lock of the array, so a session on the array excludes sessions on
its elements and sessions on different elements go side by side.
-/

namespace RegisterMap

/-- An array of registers that can be accessed. -/
structure RegisterArray where
  /-- The description of the element at position zero. -/
  layout : RegisterLayout
  dimensions : List Nat
  /-- Bytes from one element to the next. -/
  stride : Nat
  /-- The lock of the array; those of the elements follow it. -/
  lock : LockId
deriving Repr

namespace RegisterArray

def size (a : RegisterArray) : Nat := Index.count a.dimensions

def isEmpty (a : RegisterArray) : Bool := a.size == 0

/-- Binds a layout, with new locks for the array and its elements. -/
def bind (layout : RegisterLayout) (dimensions : List Nat) (stride : Nat) (locks : LockForest) :
    RegisterArray × LockForest :=
  let (locks, lock) := locks.create none
  let array : RegisterArray := ⟨layout, dimensions, stride, lock⟩
  (array, locks.createChildren lock array.size)

/-! ## Elements -/

/-- The description of the element at a position. -/
def elementLayout (a : RegisterArray) (flat : Nat) : RegisterLayout :=
  a.layout.relocate (a.layout.address + flat * a.stride)
    (a.layout.name ++ Index.suffix (Index.unflatten flat a.dimensions))

def element (a : RegisterArray) (flat : Nat) : Register := ⟨a.elementLayout flat, a.lock + 1 + flat⟩

def get (a : RegisterArray) (index : List Nat) : Except Fault Register :=
  a.element <$> Index.flatten index a.dimensions

/-- All elements in order. -/
def elements (a : RegisterArray) : List Register := (List.range a.size).map a.element

/-! ## The array as a whole -/

/-- The transfer that moves all elements. -/
def transfer (a : RegisterArray) : Transfer :=
  ⟨a.layout.address, a.layout.width, a.layout.accessWidth, a.size, a.stride⟩

/-- Refuses lists of values of which some do not fit or that are not one for each element. -/
def checkValues (a : RegisterArray) (values : List Nat) : Except Fault Unit :=
  if values.length = a.size then values.forM a.layout.checkValue
  else .error (.lengthMismatch a.size values.length)

section Operations

variable {m : Type → Type} [Port m]

open Port

/-- Reads all elements, whether or not software may. -/
def physicalReadAll (a : RegisterArray) : m (List Nat) := a.transfer.readValues

def readAll (a : RegisterArray) : m (List Nat) := do
  decide a.layout.checkReadable
  a.physicalReadAll

/-- Replaces the values of all elements. -/
def writeAll (a : RegisterArray) (values : List Nat) : m Unit := do
  decide a.layout.checkWritable
  decide (a.checkValues values)
  a.transfer.writeValues values

/-- The values of all readable fields of all elements. -/
def readFieldsAll (a : RegisterArray) : m (List FieldValues) := do
  let values ← a.readAll
  decide (values.mapM a.layout.decodeFields)

/-- The values of all elements as a buffer. -/
def readTyped (a : RegisterArray) : m TypedBuffer := do
  return .ofValues a.layout.width (← a.readAll)

/-- Replaces the values of all elements by those of a buffer. -/
def writeTyped (a : RegisterArray) (buffer : TypedBuffer) : m Unit := a.writeAll buffer.toValues

/-- The array as an object of sessions; the copy lists the values of the elements. -/
def target (a : RegisterArray) : SessionTarget m (List Nat) where
  name := a.layout.name
  lock := a.lock
  valid := .ok ()
  readable := a.layout.checkReadable
  blank := List.replicate a.size a.layout.resetValue
  load := a.physicalReadAll
  store := a.writeAll
  values copy := copy
  address := a.layout.address
  stride := a.stride

end Operations

/-! ## Edits of a copy -/

/-- The value of an element in a copy. -/
def getCopy (a : RegisterArray) (index : List Nat) (copy : List Nat) : Except Fault Nat := do
  let flat ← Index.flatten index a.dimensions
  match copy[flat]? with
  | some v => pure v
  | none => throw (.indexOutOfRange index a.dimensions)

/-- Replaces the value of an element in a copy. -/
def setCopy (a : RegisterArray) (index : List Nat) (value : Nat) (copy : List Nat) :
    Except Fault (List Nat × Unit) := do
  let flat ← Index.flatten index a.dimensions
  a.layout.checkValue value
  pure (copy.set flat value, ())

/-- The values of all readable fields of an element in a copy. -/
def readCopyFields (a : RegisterArray) (index : List Nat) (copy : List Nat) :
    Except Fault FieldValues := do
  a.layout.decodeFields (← a.getCopy index copy)

/-- Replaces the named fields of an element in a copy. -/
def writeCopyFields (a : RegisterArray) (index : List Nat) (args : FieldValues) (copy : List Nat) :
    Except Fault (List Nat × Unit) := do
  let flat ← Index.flatten index a.dimensions
  let base ← a.getCopy index copy
  let value ← a.layout.composeWrite base args
  pure (copy.set flat value, ())

end RegisterArray

end RegisterMap
