import RegisterMap.Bus.Port

/-!
# Transfers of entries

A transfer moves a run of equally sized entries that lie a fixed stride apart.  Entries that lie back
to back go through one block access when the bus offers it; all others are moved one at a time.
An entry that is wider than one access is moved as consecutive words, and when the words of all
entries tile the stride exactly they form a single run again.
-/

namespace RegisterMap

/-- A run of entries. -/
structure Transfer where
  /-- Address of the first entry in bytes. -/
  address : Nat
  /-- Width of one entry in bits. -/
  width : Nat
  /-- Width of one access in bits. -/
  accessWidth : Nat
  entries : Nat
  /-- Bytes from one entry to the next. -/
  stride : Nat
deriving DecidableEq, Repr, Inhabited

namespace Transfer

/-- Entries that lie back to back. -/
def contiguous (address width accessWidth entries : Nat) : Transfer :=
  ⟨address, width, accessWidth, entries, entryBytes width⟩

/-- The entries lie back to back, as block accesses require. -/
def isContiguous (t : Transfer) : Bool := t.stride == entryBytes t.width

def entryAddress (t : Transfer) (index : Nat) : Nat := t.address + index * t.stride

/-! ## Words -/

/-- Number of accesses that one entry takes. -/
def wordsPerEntry (t : Transfer) : Nat :=
  if t.accessWidth < t.width then t.width / t.accessWidth else 1

/-- Words of the access width that lie back to back. -/
def wordRun (t : Transfer) (address count : Nat) : Transfer :=
  contiguous address t.accessWidth t.accessWidth count

/-- The transfers of words that move the entries. -/
def wordTransfers (t : Transfer) : List Transfer :=
  if t.wordsPerEntry = 1 then [t]
  else if t.stride = t.wordsPerEntry * entryBytes t.accessWidth then
    [t.wordRun t.address (t.entries * t.wordsPerEntry)]
  else (List.range t.entries).map fun i => t.wordRun (t.entryAddress i) t.wordsPerEntry

/-- The values of the entries from their words. -/
def joinEntries (t : Transfer) (words : List Nat) : List Nat :=
  if t.wordsPerEntry = 1 then words
  else (groupsOf t.wordsPerEntry words).map (joinWords t.accessWidth)

def splitEntry (t : Transfer) (value : Nat) : Except Fault (List Nat) :=
  if t.wordsPerEntry = 1 then
    if wordMask maxWordWidth < value then .error (.tooLarge value (wordMask maxWordWidth))
    else .ok [value]
  else .ok (splitWords value t.width t.accessWidth)

/-- The words of all values, of which there has to be one for each entry. -/
def splitEntries (t : Transfer) (values : List Nat) : Except Fault (List Nat) :=
  if values.length = t.entries then List.flatten <$> values.mapM t.splitEntry
  else .error (.lengthMismatch t.entries values.length)

/-- Refuses entries and accesses that are wider than supported. -/
def checkWidths (t : Transfer) : Except Fault Unit :=
  if maxValueWidth < t.width then .error (.tooWide .entry t.width)
  else if maxWordWidth < t.accessWidth then .error (.tooWide .access t.accessWidth)
  else .ok ()

/-! ## Physical accesses -/

section Physical

variable {m : Type → Type} [Port m]

open Port

/-- Reads every entry as one word. -/
def readWords (t : Transfer) : m (List Nat) := do
  if t.entries = 0 then return []
  if t.isContiguous && (← blockReads) then
    let words : List Nat ← call (.readBlock t.address t.width t.accessWidth t.entries)
    if words.length = t.entries then return words
    else fail (.lengthMismatch t.entries words.length)
  else
    (List.range t.entries).mapM fun i => call (.read (t.entryAddress i) t.width t.accessWidth)

/-- Writes every entry as one word. -/
def writeWords (t : Transfer) (words : List Nat) : m Unit := do
  if words.length ≠ t.entries then fail (.lengthMismatch t.entries words.length)
  else if words.isEmpty then return ()
  else if t.isContiguous && (← blockWrites) then
    call (.writeBlock t.address t.width t.accessWidth words)
  else
    words.zipIdx.forM fun p => call (.write (t.entryAddress p.2) t.width t.accessWidth p.1)

/-- Reads every entry as a whole value. -/
def readValues (t : Transfer) : m (List Nat) := do
  decide t.checkWidths
  let words ← t.wordTransfers.mapM fun run => run.readWords
  return t.joinEntries words.flatten

/-- Writes words through consecutive runs, each taking as many as it has entries. -/
def writeRuns : List Transfer → List Nat → m Unit
  | [], _ => pure ()
  | run :: runs, words => do
    run.writeWords (words.take run.entries)
    writeRuns runs (words.drop run.entries)

/-- Writes every entry as a whole value.  All values are checked before the first access. -/
def writeValues (t : Transfer) (values : List Nat) : m Unit := do
  decide t.checkWidths
  let words ← decide (t.splitEntries values)
  writeRuns t.wordTransfers words

end Physical

end Transfer

end RegisterMap
