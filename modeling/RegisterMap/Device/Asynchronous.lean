import RegisterMap.Device.Operation

/-!
# Asynchronous operations

The asynchronous flavour of everything that is done with devices.  Checks and codecs are those of
the blocking flavour; the operations themselves are written a second time, as programs that wait at
every physical access.

A session is a handle (`Handle`) that is opened, edited and in the end finished, or dropped.  Its
lock is taken when it is opened, and given back when it is gone: also when opening fails, and when
finishing does.
-/

namespace RegisterMap

open Port

/-! ## Transfers -/

namespace Transfer

/-- Reads every entry as one word. -/
def readWordsAsync (t : Transfer) : Suspended (List Nat) := do
  if t.entries = 0 then return []
  if (← blockReads) && t.isContiguous then
    let data : List Nat ← call (.readBlock t.address t.width t.accessWidth t.entries)
    if data.length ≠ t.entries then fail (.lengthMismatch t.entries data.length)
    return data
  let mut data := []
  for i in List.range t.entries do
    let word : Nat ← call (.read (t.entryAddress i) t.width t.accessWidth)
    data := data ++ [word]
  return data

/-- Writes every entry as one word. -/
def writeWordsAsync (t : Transfer) (data : List Nat) : Suspended Unit := do
  if data.length ≠ t.entries then fail (.lengthMismatch t.entries data.length)
  if data.isEmpty then return ()
  if (← blockWrites) && t.isContiguous then
    return ← call (.writeBlock t.address t.width t.accessWidth data)
  for (word, i) in data.zipIdx do
    call (.write (t.entryAddress i) t.width t.accessWidth word)

/-- Reads every entry as a whole value. -/
def readValuesAsync (t : Transfer) : Suspended (List Nat) := do
  decide t.checkWidths
  let mut words := []
  for run in t.wordTransfers do
    words := words ++ (← run.readWordsAsync)
  return t.joinEntries words

/-- Writes every entry as a whole value. -/
def writeValuesAsync (t : Transfer) (values : List Nat) : Suspended Unit := do
  decide t.checkWidths
  let mut rest ← decide (t.splitEntries values)
  for run in t.wordTransfers do
    let (head, tail) := rest.splitAt run.entries
    run.writeWordsAsync head
    rest := tail

end Transfer

/-! ## Registers and fields -/

namespace Register

/-- Reads the register, whether or not software may. -/
def physicalReadAsync (r : Register) : Suspended Nat := do
  if r.layout.isWide then
    let words ← r.wordTransfer.readWordsAsync
    return joinWords r.layout.accessWidth words
  call (.read r.layout.address r.layout.width r.layout.accessWidth)

/-- Writes the register, whether or not software may. -/
def physicalWriteAsync (r : Register) (value : Nat) : Suspended Unit := do
  if r.layout.isWide then
    return ← r.wordTransfer.writeWordsAsync (splitWords value r.layout.width r.layout.accessWidth)
  let word ← decide (r.layout.toWord value)
  call (.write r.layout.address r.layout.width r.layout.accessWidth word)

def readAsync (r : Register) : Suspended Nat := do
  decide r.layout.checkReadable
  r.physicalReadAsync

/-- Replaces the value of the register. -/
def writeAsync (r : Register) (value : Nat) : Suspended Unit := do
  decide r.layout.checkWritable
  decide (r.layout.checkValue value)
  r.physicalWriteAsync value

/-- The values of all readable fields, from one read. -/
def readFieldsAsync (r : Register) : Suspended FieldValues := do
  let snapshot ← r.readAsync
  decide (r.layout.decodeFields snapshot)

/-- Replaces the named fields with one read and one write. -/
def writeFieldsAsync (r : Register) (args : FieldValues) : Suspended Unit := do
  let prepared ← decide (r.layout.prepareWrite args)
  decide (r.layout.checkComplete args)
  let mut base := 0
  if r.layout.readable then base ← r.physicalReadAsync
  r.physicalWriteAsync (prepared.apply base)

end Register

namespace Field

/-- The integer that the field holds. -/
def readAsync (f : Field) : Suspended Nat := do
  decide f.checkReadable
  let raw ← f.register.physicalReadAsync
  decide (f.layout.geometry.decode raw f.register.layout.width)

/-- The value of the field, a member if the field has an enumeration. -/
def readValueAsync (f : Field) : Suspended FieldValue := do
  decide f.checkReadable
  let raw ← f.register.physicalReadAsync
  decide (f.layout.decode raw f.register.layout.width)

/-- Replaces the value of the field. -/
def writeAsync (f : Field) (value : FieldValue) : Suspended Unit :=
  f.register.writeFieldsAsync [(f.layout.name, value)]

/-- The value of the field as an element of an enumeration type. -/
def readEnumAsync (α : Type) [FieldEnum α] (f : Field) : Suspended α := do
  let value ← f.readAsync
  match FieldEnum.ofValue? (α := α) value with
  | some a => return a
  | none => fail (.notEnumMember (FieldEnum.enumeration α) value)

/-- Writes an element of an enumeration type. -/
def writeEnumAsync {α : Type} [FieldEnum α] (f : Field) (a : α) : Suspended Unit :=
  f.writeAsync (.member (FieldEnum.toMember a))

end Field

/-! ## Register arrays -/

namespace RegisterArray

/-- Reads all elements, whether or not software may. -/
def physicalReadAllAsync (a : RegisterArray) : Suspended (List Nat) := a.transfer.readValuesAsync

def readAllAsync (a : RegisterArray) : Suspended (List Nat) := do
  decide a.layout.checkReadable
  a.physicalReadAllAsync

/-- Replaces the values of all elements. -/
def writeAllAsync (a : RegisterArray) (values : List Nat) : Suspended Unit := do
  decide a.layout.checkWritable
  if values.length ≠ a.size then fail (.lengthMismatch a.size values.length)
  for value in values do
    decide (a.layout.checkValue value)
  a.transfer.writeValuesAsync values

/-- The values of all readable fields of all elements. -/
def readFieldsAllAsync (a : RegisterArray) : Suspended (List FieldValues) := do
  let values ← a.readAllAsync
  decide (values.mapM a.layout.decodeFields)

/-- The values of all elements as a buffer. -/
def readTypedAsync (a : RegisterArray) : Suspended TypedBuffer := do
  return .ofValues a.layout.width (← a.readAllAsync)

/-- Replaces the values of all elements by those of a buffer. -/
def writeTypedAsync (a : RegisterArray) (buffer : TypedBuffer) : Suspended Unit :=
  a.writeAllAsync buffer.toValues

end RegisterArray

/-! ## Memories -/

namespace Memory

/-- The transfer of a range, which has to lie within the memory. -/
def checkedTransfer (mem : Memory) (start count : Nat) : Except Fault Transfer := do
  if mem.layout.entries < min (start + count) MemoryLayout.maxCount then
    throw (.indexOutOfRange [start, count] [mem.layout.entries])
  return .contiguous (mem.layout.address + start * mem.layout.entryBytes) mem.layout.width
    mem.layout.accessWidth count

/-- The values of `count` entries from `start` on. -/
def readAsync (mem : Memory) (start count : Nat) : Suspended (List Nat) := do
  if !mem.layout.access.readable then fail (.accessDenied mem.layout.name .read)
  let transfer ← decide (mem.checkedTransfer start count)
  transfer.readValuesAsync

/-- Replaces the values of the entries from `start` on. -/
def writeAsync (mem : Memory) (start : Nat) (values : List Nat) : Suspended Unit := do
  if !mem.layout.access.writable then fail (.accessDenied mem.layout.name .write)
  let transfer ← decide (mem.checkedTransfer start values.length)
  let max := valueMask mem.layout.width
  if let some value := values.find? fun v => max < v then fail (.tooLarge value max)
  transfer.writeValuesAsync values

def readEntryAsync (mem : Memory) (index : Nat) : Suspended Nat := do
  return (← mem.readAsync index 1).headD 0

/-- Replaces the value of one entry. -/
def writeEntryAsync (mem : Memory) (index value : Nat) : Suspended Unit :=
  mem.writeAsync index [value]

/-- The values of a range as a buffer. -/
def readTypedAsync (mem : Memory) (start count : Nat) : Suspended TypedBuffer := do
  return .ofValues mem.layout.width (← mem.readAsync start count)

/-- Replaces the values of a range by those of a buffer. -/
def writeTypedAsync (mem : Memory) (start : Nat) (buffer : TypedBuffer) : Suspended Unit :=
  mem.writeAsync start buffer.toValues

end Memory

/-- Carries out an operation in the asynchronous flavour.  That flavour has no bits of its own: they
are cut out of the values of entries that it reads, and put together to entries that it writes. -/
def DeviceOperation.performAsync : (op : DeviceOperation) → Suspended op.Result
  | readWords t => t.readWordsAsync
  | writeWords t words => t.writeWordsAsync words
  | readValues t => t.readValuesAsync
  | writeValues t values => t.writeValuesAsync values
  | readRegister r => r.readAsync
  | writeRegister r value => r.writeAsync value
  | readFields r => r.readFieldsAsync
  | writeFields r args => r.writeFieldsAsync args
  | readField f => f.readAsync
  | readFieldValue f => f.readValueAsync
  | writeField f value => f.writeAsync value
  | readMember f α => f.readEnumAsync α
  | writeMember f _ a => f.writeEnumAsync a
  | readAll a => a.readAllAsync
  | writeAll a values => a.writeAllAsync values
  | readFieldsAll a => a.readFieldsAllAsync
  | readElements a => a.readTypedAsync
  | writeElements a buffer => a.writeTypedAsync buffer
  | readMemory mem start count => mem.readAsync start count
  | writeMemory mem start values => mem.writeAsync start values
  | readEntry mem index => mem.readEntryAsync index
  | writeEntry mem index value => mem.writeEntryAsync index value
  | readBuffer mem start count => mem.readTypedAsync start count
  | writeBuffer mem start buffer => mem.writeTypedAsync start buffer
  | readBits mem start count => (wordsToBits · mem.layout.width) <$> mem.readAsync start count
  | writeBits mem start bits =>
    let width := mem.layout.width
    if bits.length % width = 0 then mem.writeAsync start (bitsToWords bits width)
    else fail (.lengthMismatch ((bits.length + width - 1) / width * width) bits.length)

/-! ## Sessions -/

/-- An open session on an object. -/
structure Handle (o : Copied) where
  options : SessionOptions
  copy : o.Snapshot

/-- Takes a lock and goes on with it; the lock is given back if that fails. -/
def locking {α : Type} (lock : LockId) (name : String) (body : Suspended α) : Suspended α := do
  let taken : Bool ← ask (.acquire lock)
  if taken then
    match ← attempt body with
    | .ok a => return a
    | .error e => do
      let _ : Unit ← ask (.release lock)
      fail e
  else fail (.sessionActive name)

/-- Does the last work under a lock, which is given back whether or not that succeeds. -/
def unlocking {α : Type} (lock : LockId) (body : Suspended α) : Suspended α := do
  let outcome ← attempt body
  let _ : Unit ← ask (.release lock)
  decide outcome

namespace Register

/-- Opens a session on the register. -/
def openAsync (r : Register) (options : SessionOptions) : Suspended (Handle (.register r)) :=
  locking r.lock r.layout.name do
    if options.verify then decide r.layout.checkReadable
    let mut value := r.layout.resetValue
    if r.layout.readable then value ← r.physicalReadAsync
    return ⟨options, value⟩

/-- Ends a session on the register by writing its copy back. -/
def finishAsync (r : Register) (s : Handle (.register r)) : Suspended Unit :=
  unlocking r.lock do
    if s.options.skipWrite then return ()
    r.writeAsync s.copy
    if s.options.verify then
      let actual ← r.physicalReadAsync
      decide (verifyValues r.layout.address 0 [s.copy] [actual])

end Register

namespace RegisterArray

/-- Opens a session on the whole array. -/
def openAsync (a : RegisterArray) (options : SessionOptions) : Suspended (Handle (.array a)) :=
  locking a.lock a.layout.name do
    if options.verify then decide a.layout.checkReadable
    let mut values := List.replicate a.size a.layout.resetValue
    if a.layout.readable then values ← a.physicalReadAllAsync
    return ⟨options, values⟩

/-- Ends a session on the array by writing its copy back. -/
def finishAsync (a : RegisterArray) (s : Handle (.array a)) : Suspended Unit :=
  unlocking a.lock do
    if s.options.skipWrite then return ()
    a.writeAllAsync s.copy
    if s.options.verify then
      let actual ← a.physicalReadAllAsync
      decide (verifyValues a.layout.address a.stride s.copy actual)

end RegisterArray

namespace Memory

/-- Opens a session on a range of entries. -/
def openAsync (mem : Memory) (options : SessionOptions) (start count : Nat) :
    Suspended (Handle (.entries mem start count)) :=
  locking mem.lock mem.layout.name do
    let transfer ← decide (mem.checkedTransfer start count)
    if options.verify && !mem.layout.access.readable then
      fail (.accessDenied mem.layout.name .read)
    let mut values := List.replicate count 0
    if mem.layout.access.readable then values ← transfer.readValuesAsync
    return ⟨options, values⟩

/-- Ends a session on a range by writing its copy back.  What is read back are as many entries as the
copy has. -/
def finishAsync (mem : Memory) {start count : Nat} (s : Handle (.entries mem start count)) :
    Suspended Unit :=
  unlocking mem.lock do
    if s.options.skipWrite then return ()
    mem.writeAsync start s.copy
    if s.options.verify then
      let transfer ← decide (mem.checkedTransfer start s.copy.length)
      let actual ← transfer.readValuesAsync
      decide (verifyValues (mem.layout.address + start * mem.layout.entryBytes)
        mem.layout.entryBytes s.copy actual)

end Memory

/-- Opens a session. -/
def Copied.openAsync : (o : Copied) → SessionOptions → Suspended (Handle o)
  | register r, options => r.openAsync options
  | array a, options => a.openAsync options
  | entries mem start count, options => mem.openAsync options start count

namespace Handle

/-- Ends a session by writing its copy back. -/
def finish : {o : Copied} → Handle o → Suspended Unit
  | .register r, s => r.finishAsync s
  | .array a, s => a.finishAsync s
  | .entries mem _ _, s => mem.finishAsync s

variable {o : Copied} {α : Type}

/-- Gives up a session. -/
def drop (_ : Handle o) : Suspended Unit := ask (.release o.lock)

/-- Edits the copy in memory.  A refused edit leaves the session as it was. -/
def edit (s : Handle o) (f : o.Snapshot → Except Fault (o.Snapshot × α)) :
    Except Fault (Handle o × α) :=
  (fun (copy, result) => ({ s with copy }, result)) <$> f s.copy

end Handle

/-- An open session and the object that it copies. -/
structure OpenSession where
  object : Copied
  handle : Handle object

end RegisterMap
