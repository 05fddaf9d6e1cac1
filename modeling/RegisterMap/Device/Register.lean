import RegisterMap.Bus.Transfer
import RegisterMap.Register.Layout
import RegisterMap.Session.Cached

/-!
# Registers on a bus

A register is a layout together with the lock of its sessions.  Registers are read and written as a
whole; a field write reads the register, replaces the named fields and writes it once.  Every check
of an argument comes before the first access, so a refused write issues no write call.
-/

namespace RegisterMap

/-- A register that can be accessed. -/
structure Register where
  layout : RegisterLayout
  lock : LockId
deriving Repr

/-- A field of a register that can be accessed. -/
structure Field where
  register : Register
  layout : FieldLayout
deriving Repr

namespace Register

/-- Binds a layout, with a new lock. -/
def bind (layout : RegisterLayout) (locks : LockForest) : Register × LockForest :=
  let (locks, lock) := locks.create none
  (⟨layout, lock⟩, locks)

def field (r : Register) (name : String) : Except Fault Field := Field.mk r <$> r.layout.field name

/-- The field at a place in the order of fields. -/
def fieldAt? (r : Register) (index : Nat) : Option Field := Field.mk r <$> r.layout.fields[index]?

section Operations

variable {m : Type → Type} [Port m]

open Port

/-- The words of a register that takes several accesses. -/
def wordTransfer (r : Register) : Transfer :=
  .contiguous r.layout.address r.layout.accessWidth r.layout.accessWidth r.layout.wordCount

/-- Reads the register, whether or not software may. -/
def physicalRead (r : Register) : m Nat := do
  if r.layout.isWide then
    return joinWords r.layout.accessWidth (← r.wordTransfer.readWords)
  else
    call (.read r.layout.address r.layout.width r.layout.accessWidth)

/-- Writes the register, whether or not software may. -/
def physicalWrite (r : Register) (value : Nat) : m Unit := do
  if r.layout.isWide then
    r.wordTransfer.writeWords (splitWords value r.layout.width r.layout.accessWidth)
  else
    let word ← decide (r.layout.toWord value)
    call (.write r.layout.address r.layout.width r.layout.accessWidth word)

def read (r : Register) : m Nat := do
  decide r.layout.checkReadable
  r.physicalRead

/-- Replaces the value of the register. -/
def write (r : Register) (value : Nat) : m Unit := do
  decide r.layout.checkWritable
  decide (r.layout.checkValue value)
  r.physicalWrite value

/-- The values of all readable fields, from one read. -/
def readFields (r : Register) : m FieldValues := do
  let raw ← r.read
  decide (r.layout.decodeFields raw)

/-- Replaces the named fields with one read and one write.  A register that cannot be read is
written from zero, which is why all its fields have to be named. -/
def writeFields (r : Register) (args : FieldValues) : m Unit := do
  let prepared ← decide (r.layout.prepareWrite args)
  decide (r.layout.checkComplete args)
  let base ← if r.layout.readable then r.physicalRead else pure 0
  r.physicalWrite (prepared.apply base)

/-- The register as an object of sessions; the copy is its value. -/
def target (r : Register) : SessionTarget m Nat where
  name := r.layout.name
  lock := r.lock
  valid := .ok ()
  readable := r.layout.checkReadable
  blank := r.layout.resetValue
  load := r.physicalRead
  store := r.write
  values v := [v]
  address := r.layout.address
  stride := 0

end Operations

/-! ## Edits of a copy -/

/-- Replaces the copy by a value that fits. -/
def setCopy (r : Register) (value : Nat) (_ : Nat) : Except Fault (Nat × Unit) := do
  r.layout.checkValue value
  pure (value, ())

/-- Replaces the named fields in the copy. -/
def writeCopyFields (r : Register) (args : FieldValues) (copy : Nat) : Except Fault (Nat × Unit) :=
  (·, ()) <$> r.layout.composeWrite copy args

end Register

namespace Field

/-- Refuses fields that cannot be read. -/
def checkReadable (f : Field) : Except Fault Unit :=
  if f.layout.access.readable then .ok ()
  else .error (.accessDenied (f.register.layout.fieldPath f.layout) .read)

section Operations

variable {m : Type → Type} [Port m]

open Port

/-- The integer that the field holds. -/
def read (f : Field) : m Nat := do
  decide f.checkReadable
  let raw ← f.register.physicalRead
  decide (f.layout.geometry.decode raw f.register.layout.width)

/-- The value of the field, a member if the field has an enumeration. -/
def readValue (f : Field) : m FieldValue := do
  decide f.checkReadable
  let raw ← f.register.physicalRead
  decide (f.layout.decode raw f.register.layout.width)

/-- Replaces the value of the field. -/
def write (f : Field) (value : FieldValue) : m Unit := f.register.writeFields [(f.layout.name, value)]

/-- The value of the field as an element of an enumeration type. -/
def readEnum (α : Type) [FieldEnum α] (f : Field) : m α := do
  let value ← f.read
  match FieldEnum.ofValue? (α := α) value with
  | some a => return a
  | none => fail (.notEnumMember (FieldEnum.enumeration α) value)

/-- Writes an element of an enumeration type. -/
def writeEnum {α : Type} [FieldEnum α] (f : Field) (a : α) : m Unit :=
  f.write (.member (FieldEnum.toMember a))

end Operations

end Field

end RegisterMap
