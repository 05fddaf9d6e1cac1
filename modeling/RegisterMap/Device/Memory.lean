import RegisterMap.Bus.Transfer
import RegisterMap.Device.TypedBuffer
import RegisterMap.Access
import RegisterMap.Session.Cached

/-!
# Memories on a bus

A memory is a run of entries that lie back to back.  Any range of entries is read or written by one
transfer; the range and all values are checked before the first access.
-/

namespace RegisterMap

/-- Static description of a memory. -/
structure MemoryLayout where
  name : String
  /-- Its address in bytes. -/
  address : Nat
  entries : Nat
  /-- Width of one entry in bits. -/
  width : Nat
  /-- Width of one access in bits. -/
  accessWidth : Nat
  access : Access
deriving DecidableEq, Repr, Inhabited

namespace MemoryLayout

/-- Bytes from one entry to the next. -/
def entryBytes (l : MemoryLayout) : Nat := RegisterMap.entryBytes l.width

/-- The size of the memory in bytes. -/
def size (l : MemoryLayout) : Nat := l.entries * l.entryBytes

def entryAddress (l : MemoryLayout) (index : Nat) : Nat := l.address + index * l.entryBytes

/-- The largest value of an entry. -/
def maxValue (l : MemoryLayout) : Nat := valueMask l.width

/-- The largest number that counts entries. -/
def maxCount : Nat := valueCount 64 - 1

/-- Refuses ranges that reach beyond the last entry.  The end of a range is capped at the largest
count. -/
def checkRange (l : MemoryLayout) (start count : Nat) : Except Fault Unit :=
  if l.entries < min (start + count) maxCount then
    .error (.indexOutOfRange [start, count] [l.entries])
  else .ok ()

/-- Refuses memories that cannot be read. -/
def checkReadable (l : MemoryLayout) : Except Fault Unit :=
  if l.access.readable then .ok () else .error (.accessDenied l.name .read)

/-- Refuses memories that cannot be written. -/
def checkWritable (l : MemoryLayout) : Except Fault Unit :=
  if l.access.writable then .ok () else .error (.accessDenied l.name .write)

/-- Refuses values that do not fit an entry; the first one is the fault. -/
def checkValues (l : MemoryLayout) (values : List Nat) : Except Fault Unit :=
  match values.find? fun v => l.maxValue < v with
  | some v => .error (.tooLarge v l.maxValue)
  | none => .ok ()

/-- The transfer that moves a range of entries. -/
def transfer (l : MemoryLayout) (start count : Nat) : Transfer :=
  .contiguous (l.entryAddress start) l.width l.accessWidth count

end MemoryLayout

/-- A memory that can be accessed. -/
structure Memory where
  layout : MemoryLayout
  lock : LockId
deriving Repr

namespace Memory

/-- Binds a layout, with a new lock. -/
def bind (layout : MemoryLayout) (locks : LockForest) : Memory × LockForest :=
  let (locks, lock) := locks.create none
  (⟨layout, lock⟩, locks)

section Operations

variable {m : Type → Type} [Port m]

open Port

/-- Reads a range, whether or not software may. -/
def physicalRead (mem : Memory) (start count : Nat) : m (List Nat) := do
  decide (mem.layout.checkRange start count)
  (mem.layout.transfer start count).readValues

/-- Writes a range, whether or not software may. -/
def physicalWrite (mem : Memory) (start : Nat) (values : List Nat) : m Unit := do
  decide (mem.layout.checkRange start values.length)
  decide (mem.layout.checkValues values)
  (mem.layout.transfer start values.length).writeValues values

/-- The values of `count` entries from `start` on. -/
def read (mem : Memory) (start count : Nat) : m (List Nat) := do
  decide mem.layout.checkReadable
  mem.physicalRead start count

/-- Replaces the values of the entries from `start` on. -/
def write (mem : Memory) (start : Nat) (values : List Nat) : m Unit := do
  decide mem.layout.checkWritable
  mem.physicalWrite start values

def readEntry (mem : Memory) (index : Nat) : m Nat := do
  return (← mem.read index 1).headD 0

/-- Replaces the value of one entry. -/
def writeEntry (mem : Memory) (index value : Nat) : m Unit := mem.write index [value]

/-- The values of a range as a buffer. -/
def readTyped (mem : Memory) (start count : Nat) : m TypedBuffer := do
  return .ofValues mem.layout.width (← mem.read start count)

/-- Replaces the values of a range by those of a buffer. -/
def writeTyped (mem : Memory) (start : Nat) (buffer : TypedBuffer) : m Unit :=
  mem.write start buffer.toValues

/-- The bits of a range, those of the first entry first. -/
def readBits (mem : Memory) (start count : Nat) : m (List Bool) := do
  return wordsToBits (← mem.read start count) mem.layout.width

/-- Replaces a range by the entries whose bits are listed; only whole entries can be written. -/
def writeBits (mem : Memory) (start : Nat) (bits : List Bool) : m Unit := do
  let width := mem.layout.width
  if bits.length % width = 0 then mem.write start (bitsToWords bits width)
  else fail (.lengthMismatch ((bits.length + width - 1) / width * width) bits.length)

/-- A range of entries as an object of sessions; the copy lists the values of the entries. -/
def target (mem : Memory) (start count : Nat) : SessionTarget m (List Nat) where
  name := mem.layout.name
  lock := mem.lock
  valid := mem.layout.checkRange start count
  readable := mem.layout.checkReadable
  blank := List.replicate count 0
  load := mem.physicalRead start count
  store := mem.write start
  values copy := copy
  address := mem.layout.entryAddress start
  stride := mem.layout.entryBytes

end Operations

end Memory

end RegisterMap
