import RegisterMap.Device.Array
import RegisterMap.Device.Memory

/-!
# Operations on devices

Everything that can be done with transfers, registers, fields, arrays and memories, as data: a
`DeviceOperation` names the object and the arguments, and `DeviceOperation.perform` carries it out.
An object that sessions copy is a `Copied`.
-/

namespace RegisterMap

/-- An operation on a device. -/
inductive DeviceOperation : Type 1 where
  | readWords (t : Transfer)
  | writeWords (t : Transfer) (words : List Nat)
  | readValues (t : Transfer)
  | writeValues (t : Transfer) (values : List Nat)
  | readRegister (r : Register)
  | writeRegister (r : Register) (value : Nat)
  | readFields (r : Register)
  | writeFields (r : Register) (args : FieldValues)
  | readField (f : Field)
  | readFieldValue (f : Field)
  | writeField (f : Field) (value : FieldValue)
  | readMember (f : Field) (α : Type) [FieldEnum α]
  | writeMember (f : Field) (α : Type) [FieldEnum α] (a : α)
  | readAll (a : RegisterArray)
  | writeAll (a : RegisterArray) (values : List Nat)
  | readFieldsAll (a : RegisterArray)
  | readElements (a : RegisterArray)
  | writeElements (a : RegisterArray) (buffer : TypedBuffer)
  | readMemory (mem : Memory) (start count : Nat)
  | writeMemory (mem : Memory) (start : Nat) (values : List Nat)
  | readEntry (mem : Memory) (index : Nat)
  | writeEntry (mem : Memory) (index value : Nat)
  | readBuffer (mem : Memory) (start count : Nat)
  | writeBuffer (mem : Memory) (start : Nat) (buffer : TypedBuffer)
  | readBits (mem : Memory) (start count : Nat)
  | writeBits (mem : Memory) (start : Nat) (bits : List Bool)

namespace DeviceOperation

/-- What an operation answers with when it succeeds. -/
abbrev Result : DeviceOperation → Type
  | readWords _ | readValues _ | readAll _ | readMemory .. => List Nat
  | readRegister _ | readField _ | readEntry .. => Nat
  | readFields _ => FieldValues
  | readFieldValue _ => FieldValue
  | readMember _ α => α
  | readFieldsAll _ => List FieldValues
  | readElements _ | readBuffer .. => TypedBuffer
  | readBits .. => List Bool
  | writeWords .. | writeValues .. | writeRegister .. | writeFields .. | writeField ..
  | writeMember .. | writeAll .. | writeElements .. | writeMemory .. | writeEntry ..
  | writeBuffer .. | writeBits .. => Unit

/-- Carries out an operation. -/
def perform {m : Type → Type} [Port m] : (op : DeviceOperation) → m op.Result
  | readWords t => t.readWords
  | writeWords t words => t.writeWords words
  | readValues t => t.readValues
  | writeValues t values => t.writeValues values
  | readRegister r => r.read
  | writeRegister r value => r.write value
  | readFields r => r.readFields
  | writeFields r args => r.writeFields args
  | readField f => f.read
  | readFieldValue f => f.readValue
  | writeField f value => f.write value
  | readMember f α => f.readEnum α
  | writeMember f _ a => f.writeEnum a
  | readAll a => a.readAll
  | writeAll a values => a.writeAll values
  | readFieldsAll a => a.readFieldsAll
  | readElements a => a.readTyped
  | writeElements a buffer => a.writeTyped buffer
  | readMemory mem start count => mem.read start count
  | writeMemory mem start values => mem.write start values
  | readEntry mem index => mem.readEntry index
  | writeEntry mem index value => mem.writeEntry index value
  | readBuffer mem start count => mem.readTyped start count
  | writeBuffer mem start buffer => mem.writeTyped start buffer
  | readBits mem start count => mem.readBits start count
  | writeBits mem start bits => mem.writeBits start bits

end DeviceOperation

/-! ## Objects of sessions -/

/-- An object that sessions copy. -/
inductive Copied where
  | register (r : Register)
  | array (a : RegisterArray)
  | entries (mem : Memory) (start count : Nat)

namespace Copied

/-- The copies of an object. -/
abbrev Snapshot : Copied → Type
  | register _ => Nat
  | array _ | entries .. => List Nat

/-- The values of a copy, one for each entry. -/
def values : (o : Copied) → o.Snapshot → List Nat
  | register _, value => [value]
  | array _, values | entries .., values => values

/-- The copy that has these values. -/
def ofValues : (o : Copied) → List Nat → o.Snapshot
  | register _, values => values.headD 0
  | array _, values | entries .., values => values

def target {m : Type → Type} [Port m] : (o : Copied) → SessionTarget m o.Snapshot
  | register r => r.target
  | array a => a.target
  | entries mem start count => mem.target start count

def lock : Copied → LockId
  | register r => r.lock
  | array a => a.lock
  | entries mem .. => mem.lock

end Copied

end RegisterMap
