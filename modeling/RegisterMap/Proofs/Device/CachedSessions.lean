import Mathlib
import RegisterMap.Proofs.Bus.AddressSpace
import RegisterMap.Proofs.Bus.Plans
import RegisterMap.Proofs.Device.MemoryBounds
import RegisterMap.Proofs.Device.Requests
import RegisterMap.Proofs.Session.Locks

/-!
# The course of a cached session

A session reads its object once, lets the copy be edited and writes it back once.  It has many ways
out: the lock is taken, the range is invalid, verification is asked of an object that cannot be
read, a call fails, the edit fails, the copy cannot be written, or what is read back differs.  Each
of them ends the session where it stands, so the calls that were made tell how far it came.

The course is given in two parts, as far as the first copy (`Copied.Opens`) and from the last copy
on (`Copied.Closes`), each with one case for every way it can end.  A read or a write of the whole
object is a plan of single accesses, carried out in full or up to the call that fails.  Every
session takes such a course (`session_course`), for registers, arrays and ranges of memories alike.

The lock is given back on every way out, and operations take no locks, so all locks are afterwards
as they were, whatever the body of the session does.

A range is invalid if the sum of its start and its length is greater than the number of entries
(`Copied.checkBounds`).  The check that is made caps the sum, so that in a memory of the largest size
a range beyond the end is taken for one that is not (`byte_beyond_last_is_copied`); everywhere else
the two agree (`Copied.EndCounts`).  And addresses have 64 bits, so an object that lies within its
memory has to lie within the address space too (`Copied.Addressable`).
-/

namespace RegisterMap

open Blocking

variable {σ α β : Type} {bus : Bus σ}

lemma Blocking.run_decide (outcome : Except Fault α) (w : World σ) :
    Blocking.run (Port.decide outcome) bus w = (outcome, w) := by
  cases outcome <;> rfl

/-! ## Registers as entries -/

namespace Register

variable {r : Register} {value : ℕ}

/-- The register as the only entry of a transfer. -/
def entry (r : Register) : Transfer :=
  .contiguous r.layout.address r.layout.width r.layout.accessWidth 1

/-- The plan that reads the register: its words, or the one access that it takes. -/
def reads (r : Register) : List Call :=
  if r.layout.isWide then r.wordTransfer.readsAt
  else [.read r.layout.address r.layout.width r.layout.accessWidth]

/-- The plan that writes a value to the register. -/
def writes (r : Register) (value : ℕ) : List Call :=
  if r.layout.isWide then
    (r.wordTransfer.addresses.zip (splitWords value r.layout.width r.layout.accessWidth)).map
      fun p => .write p.1 r.layout.accessWidth r.layout.accessWidth p.2
  else [.write r.layout.address r.layout.width r.layout.accessWidth value]

/-- Reading the register reads its words once, whatever its sizes are. -/
lemma follows_reads : Follows bus r.physicalRead r.reads fun words value =>
    if r.layout.isWide then value = joinWords r.layout.accessWidth words else words = [value] := by
  unfold physicalRead reads
  cases r.layout.isWide with
  | true => exact r.wordTransfer.follows_readWords.bindPure fun words words' h => h ▸ rfl
  | false => exact follows_call _ fun _ => rfl

/-- Writing a value that one access can move, if there is only one, writes its words once. -/
lemma follows_writes (hword : r.layout.isWide = false → r.layout.toWord value = .ok value) :
    Follows bus (r.physicalWrite value) (r.writes value) fun _ _ => True := by
  unfold physicalWrite writes
  cases hwide : r.layout.isWide with
  | true => exact r.wordTransfer.follows_writeWords (length_splitWords _ _)
  | false =>
    exact .decideThen (hword hwide) ((follows_call _ fun _ => rfl).mono fun _ _ _ => trivial)

section Sizes

variable (h : RegisterDetail.Admitted ⟨r.layout.width, r.layout.accessWidth⟩)
include h

lemma whole_entry : r.entry.Whole :=
  ⟨h.width_pos, h.width_le, h.accessWidth_pos, h.accessWidth_le, h.accessWidth_dvd⟩

/-- The words of the entry are those of the register. -/
lemma wordAddresses_entry : r.entry.wordAddresses 0 = r.wordTransfer.addresses := by
  unfold Transfer.wordAddresses Transfer.addresses
  rw [(whole_entry h).wordsPerEntry_eq]
  refine List.map_congr_left fun k _ => ?_
  rw [Transfer.wordAddress, (whole_entry h).wordWidth_eq]
  simp [Transfer.entryAddress, entry, wordTransfer, Transfer.contiguous]

lemma wordsPerEntry_ne_one (hwide : r.layout.isWide = true) : r.entry.wordsPerEntry ≠ 1 := by
  intro hone
  have hequal : r.layout.width = r.layout.accessWidth := (whole_entry h).width_eq hone
  have hless : r.layout.accessWidth < r.layout.width := of_decide_eq_true hwide
  exact hless.ne' hequal

/-- A register that takes a single access is as wide as it. -/
lemma width_eq (hwide : r.layout.isWide = false) : r.layout.width = r.layout.accessWidth :=
  Nat.le_antisymm (Nat.le_of_not_lt (of_decide_eq_false hwide))
    (Nat.le_of_dvd h.width_pos h.accessWidth_dvd)

omit h in
lemma wordAddresses_of_narrow (hwide : r.layout.isWide = false) :
    r.entry.wordAddresses 0 = [r.layout.address] := by
  have hone : r.entry.wordsPerEntry = 1 := if_neg (of_decide_eq_false hwide)
  have haddress : r.entry.wordAddress 0 0 = r.layout.address := by
    simp [Transfer.wordAddress, Transfer.entryAddress, entry, Transfer.contiguous]
  rw [Transfer.wordAddresses, hone, List.range_one, List.map_singleton, haddress]

lemma reads_entry : r.entry.reads = r.reads := by
  have hplan : r.entry.reads = (r.entry.wordAddresses 0).map fun address =>
      .read address r.layout.accessWidth r.layout.accessWidth := by
    unfold Transfer.reads
    rw [(whole_entry h).wordWidth_eq]
    simp [entry, Transfer.contiguous]
  rw [hplan, reads]
  cases hwide : r.layout.isWide with
  | true =>
    rw [wordAddresses_entry h]
    rfl
  | false =>
    rw [wordAddresses_of_narrow hwide, width_eq h hwide]
    rfl

lemma writes_entry (value : ℕ) : r.entry.writes [value] = r.writes value := by
  have hplan : r.entry.writes [value] =
      ((r.entry.wordAddresses 0).zip (r.entry.entryWords value)).map fun p =>
        .write p.1 r.layout.accessWidth r.layout.accessWidth p.2 := by
    unfold Transfer.writes
    rw [(whole_entry h).wordWidth_eq]
    simp [entry, Transfer.contiguous]
  rw [hplan, writes, Transfer.entryWords]
  cases hwide : r.layout.isWide with
  | true =>
    rw [if_neg (wordsPerEntry_ne_one h hwide), wordAddresses_entry h]
    rfl
  | false =>
    have hone : r.entry.wordsPerEntry = 1 := if_neg (of_decide_eq_false hwide)
    rw [if_pos hone, wordAddresses_of_narrow hwide, width_eq h hwide]
    rfl

/-- Reading the register reads its words once and joins them. -/
theorem follows_physicalRead : Follows bus r.physicalRead r.entry.reads fun words value =>
    [value] = r.entry.joinEntries words := by
  refine reads_entry h ▸ follows_reads.counted.mono fun words value hread => ?_
  obtain ⟨hvalue, hlength⟩ := hread
  rw [← reads_entry h, Transfer.countP_reads, show r.entry.entries = 1 from rfl, one_mul] at hlength
  cases hwide : r.layout.isWide with
  | true =>
    have hgroups : groupsOf r.entry.wordsPerEntry words = [words] := by
      have hone := groupsOf_flatten (whole_entry h).wordsPerEntry_pos (by simpa using hlength :
        ∀ piece ∈ [words], piece.length = _)
      simpa using hone
    rw [hwide, if_pos rfl] at hvalue
    rw [Transfer.joinEntries, if_neg (wordsPerEntry_ne_one h hwide), hgroups, hvalue]
    rfl
  | false =>
    have hone : r.entry.wordsPerEntry = 1 := if_neg (of_decide_eq_false hwide)
    rw [hwide, if_neg Bool.false_ne_true] at hvalue
    rw [hvalue, Transfer.joinEntries, if_pos hone]

/-- Writing a value that fits writes its words once. -/
theorem follows_physicalWrite (hvalue : value ≤ r.layout.maxValue) :
    Follows bus (r.physicalWrite value) (r.entry.writes [value]) fun _ _ => True := by
  refine writes_entry h value ▸ follows_writes fun hwide => ?_
  refine if_neg (Nat.not_lt.2 (hvalue.trans (valueMask_le_of_le ?_)))
  rw [width_eq h hwide]
  exact h.accessWidth_le

end Sizes

end Register

/-! ## Objects of sessions -/

namespace Copied

/-- The sizes of the object are those that the loader accepts. -/
def Admitted : Copied → Prop
  | register r => RegisterDetail.Admitted ⟨r.layout.width, r.layout.accessWidth⟩
  | array a => RegisterDetail.Admitted ⟨a.layout.width, a.layout.accessWidth⟩
  | entries mem _ _ => MemoryDetail.Admitted
      ⟨mem.layout.entries, mem.layout.width, mem.layout.accessWidth, mem.layout.access⟩

def name : Copied → String
  | register r => r.layout.name
  | array a => a.layout.name
  | entries mem _ _ => mem.layout.name

/-- The check of the object before it is copied. -/
def checkRange : Copied → Except Fault Unit
  | register _ | array _ => .ok ()
  | entries mem start count => mem.layout.checkRange start count

/-- The object lies within what it is a part of: a range ends before its memory does. -/
def checkBounds : Copied → Except Fault Unit
  | register _ | array _ => .ok ()
  | entries mem start count =>
    if start + count ≤ mem.layout.entries then .ok ()
    else .error (.indexOutOfRange [start, count] [mem.layout.entries])

/-- The range ends within its memory, or there are more numbers than the memory has entries. -/
def EndCounts : Copied → Prop
  | register _ | array _ => True
  | entries mem start count =>
    start + count ≤ mem.layout.entries ∨ mem.layout.entries < MemoryLayout.maxCount

/-- The transfer that moves the whole object. -/
def transfer : Copied → Transfer
  | register r => r.entry
  | array a => a.transfer
  | entries mem start count => mem.layout.transfer start count

/-- The addresses of the words of the object, computed with 64 bits: first those of a range, and from
there those of its entries. -/
def checkedWords : Copied → Except Overflow (List ℕ)
  | register r => r.layout.checkedWordAddresses
  | array a => a.transfer.checkedWords
  | entries mem start count => do
    let address ← elementAddress mem.layout.address start mem.layout.entryBytes
    { mem.layout.transfer start count with address }.checkedWords

/-- The object lies in the address space, and there is room for its words and its values. -/
structure Addressable (o : Copied) : Prop where
  address : o.transfer.address < valueCount addressWidth
  words : o.transfer.Addressable
  room : o.transfer.Buffered

/-- The copy of an object that cannot be read: reset values, or zeros for a memory. -/
def blank : (o : Copied) → o.Snapshot
  | register r => r.layout.resetValue
  | array a => List.replicate a.size a.layout.resetValue
  | entries _ _ count => List.replicate count 0

def maxValue : Copied → ℕ
  | register r => r.layout.maxValue
  | array a => a.layout.maxValue
  | entries mem _ _ => mem.layout.maxValue

/-- Refuses values that are larger than `max`; the first one is the fault. -/
def checkFits (max : ℕ) (values : List ℕ) : Except Fault Unit :=
  match values.find? fun v => max < v with
  | some v => .error (.tooLarge v max)
  | none => .ok ()

/-- Refuses copies that cannot be written: software may not write the object, or a value does not
fit. -/
def checkCopy (o : Copied) (copy : o.Snapshot) : Except Fault Unit :=
  if o.mayWrite then checkFits o.maxValue (o.values copy) else .error (.accessDenied o.name .write)

variable {o : Copied} {copy : o.Snapshot} {max : ℕ} {values : List ℕ}

lemma checkFits_eq_ok : checkFits max values = .ok () ↔ ∀ v ∈ values, v ≤ max := by
  unfold checkFits
  split
  · next v hv =>
    refine ⟨nofun, fun hfits => ?_⟩
    have hlarge : max < v := by simpa using List.find?_some hv
    exact absurd (hfits v (List.mem_of_find?_eq_some hv)) (Nat.not_le.2 hlarge)
  · next hnone =>
    refine ⟨fun _ v hv => ?_, fun _ => rfl⟩
    simpa using List.find?_eq_none.1 hnone v hv

lemma checkCopy_eq_ok :
    o.checkCopy copy = .ok () ↔ o.mayWrite = true ∧ ∀ v ∈ o.values copy, v ≤ o.maxValue := by
  unfold checkCopy
  cases o.mayWrite with
  | false => exact ⟨nofun, nofun⟩
  | true => exact checkFits_eq_ok.trans ⟨fun hfits => ⟨rfl, hfits⟩, And.right⟩

lemma Admitted.whole (h : o.Admitted) : o.transfer.Whole := by
  cases o with
  | register r => exact Register.whole_entry h
  | array a =>
    exact ⟨h.width_pos, h.width_le, h.accessWidth_pos, h.accessWidth_le, h.accessWidth_dvd⟩
  | entries mem start count =>
    exact ⟨h.width_pos, h.width_le, h.accessWidth_pos, h.accessWidth_le, h.accessWidth_dvd⟩

lemma checkRange_eq_checkBounds (h : o.EndCounts) : o.checkRange = o.checkBounds := by
  cases o with
  | register | array => rfl
  | entries mem start count =>
    change mem.layout.checkRange start count = if _ then _ else _
    by_cases hrange : start + count ≤ mem.layout.entries
    · rw [if_pos hrange]
      exact MemoryLayout.checkRange_eq_ok_iff.2 (.inl hrange)
    · rw [if_neg hrange]
      exact MemoryLayout.checkRange_eq_error (Nat.not_le.1 hrange) (h.resolve_left hrange)

/-- With 64 bits, the words of an object in the address space are found. -/
theorem checkedWords_eq (h : o.Admitted) (hspace : o.Addressable) :
    o.checkedWords = .ok ((List.range o.transfer.entries).flatMap o.transfer.wordAddresses) := by
  have hpos : 0 < o.transfer.wordsPerEntry := h.whole.wordsPerEntry_pos
  have hwords := Transfer.checkedWords_eq hpos hspace.words (hspace.room.countable hpos)
  cases o with
  | register r =>
    have hentry : r.entry.wordAddresses 0 = r.layout.wordAddresses := Register.wordAddresses_entry h
    have hfits : r.layout.Addressable := fun address haddress =>
      hspace.words 0 Nat.one_pos address (hentry ▸ haddress)
    change r.layout.checkedWordAddresses = .ok ([0].flatMap r.entry.wordAddresses)
    rw [List.flatMap_singleton, hentry]
    exact r.layout.checkedWordAddresses_ends.ends hfits
  | array a => exact hwords
  | entries mem start count =>
    have hstart := (elementAddress_ends mem.layout.address start mem.layout.entryBytes).ends
      hspace.address
    exact (bind_of_eq_ok hstart).trans hwords

lemma maxValue_eq (o : Copied) : o.maxValue = valueMask o.transfer.width := by
  cases o <;> rfl

/-- A copy has one value for each entry. -/
def Whole (o : Copied) (copy : o.Snapshot) : Prop := (o.values copy).length = o.transfer.entries

lemma whole_blank (o : Copied) : o.Whole o.blank := by
  cases o with
  | register r => rfl
  | array a => exact List.length_replicate
  | entries mem start count => exact List.length_replicate

/-! ## Reading and writing the whole object -/

lemma follows_load (bus : Bus σ) (h : o.Admitted) (hrange : o.checkRange = .ok ()) :
    Follows bus o.target.load o.transfer.reads fun words copy =>
      o.values copy = o.transfer.joinEntries words := by
  cases o with
  | register r => exact Register.follows_physicalRead h
  | array a => exact Transfer.follows_readValues h.whole.checkWidths_eq
  | entries mem start count =>
    exact .decideThen hrange (Transfer.follows_readValues h.whole.checkWidths_eq)

/-- What was read has one value for each entry. -/
lemma Admitted.whole_of_load (h : o.Admitted) {s : σ} {calls : List Call}
    (hload : bus.Carries s o.transfer.reads
      (fun words copy => o.values copy = o.transfer.joinEntries words) calls (.ok copy)) :
    o.Whole copy := by
  obtain ⟨hserves, hplan, hcopy⟩ := hload
  have hwords := Bus.length_words_of_serves hserves
  rw [hplan, Transfer.countP_reads] at hwords
  rw [Whole, hcopy]
  exact Transfer.length_joinEntries h.whole.wordsPerEntry_pos hwords

lemma forM_checkValue (r : RegisterLayout) (values : List ℕ) :
    values.forM r.checkValue = checkFits r.maxValue values := by
  induction values with
  | nil => rfl
  | cons v rest ih =>
    change r.checkValue v >>= (fun _ => rest.forM r.checkValue) = _
    rw [ih]
    unfold RegisterLayout.checkValue checkFits
    by_cases hlarge : r.maxValue < v
    · rw [if_pos hlarge, List.find?_cons_of_pos (by simpa using hlarge)]
      rfl
    · rw [if_neg hlarge, List.find?_cons_of_neg (by simpa using hlarge)]
      rfl

/-- Writes a copy, whether or not software may. -/
def physicalStore (o : Copied) (copy : o.Snapshot) : Blocking σ Unit :=
  match o, copy with
  | register r, value => r.physicalWrite value
  | array a, values => a.transfer.writeValues values
  | entries mem start count, values => (mem.layout.transfer start count).writeValues values

/-- A copy with one value for each entry is written if it is not refused. -/
lemma store_eq (hrange : o.checkRange = .ok ()) (hwhole : o.Whole copy) :
    o.target.store copy =
      (Port.decide (o.checkCopy copy) >>= fun _ => o.physicalStore copy : Blocking σ Unit) := by
  unfold checkCopy
  cases o with
  | register r =>
    have hcheck : r.layout.checkValue copy = checkFits r.layout.maxValue [copy] := by
      rw [← forM_checkValue]
      change _ = r.layout.checkValue copy >>= fun _ => .ok ()
      cases r.layout.checkValue copy <;> rfl
    change r.write copy = _
    unfold Register.write RegisterLayout.checkWritable
    rw [hcheck]
    change _ = Port.decide (if r.layout.writable then _ else _) >>= _
    cases r.layout.writable <;> rfl
  | array a =>
    have hlength : List.length copy = a.size := hwhole
    have hcheck : a.checkValues copy = checkFits a.layout.maxValue copy := by
      rw [RegisterArray.checkValues, if_pos hlength, forM_checkValue]
    change a.writeAll copy = _
    unfold RegisterArray.writeAll RegisterLayout.checkWritable
    rw [hcheck]
    change _ = Port.decide (if a.layout.writable then _ else _) >>= _
    cases a.layout.writable <;> rfl
  | entries mem start count =>
    have hlength : List.length copy = count := hwhole
    change mem.write start copy = _
    unfold Memory.write Memory.physicalWrite MemoryLayout.checkWritable
    rw [hlength, show mem.layout.checkRange start count = .ok () from hrange]
    change _ = Port.decide (if mem.layout.access.writable then _ else _) >>= _
    cases mem.layout.access.writable <;> rfl

/-- A copy that is not refused is written once. -/
lemma follows_physicalStore (bus : Bus σ) (h : o.Admitted) (hwhole : o.Whole copy)
    (hfits : ∀ v ∈ o.values copy, v ≤ o.maxValue) :
    Follows bus (o.physicalStore copy) (o.transfer.writes (o.values copy)) fun _ _ => True := by
  have hmoved : Follows bus (o.transfer.writeValues (o.values copy))
      (o.transfer.writes (o.values copy)) fun _ _ => True := by
    refine Transfer.follows_writeValues h.whole.checkWidths_eq hwhole fun hone v hv => ?_
    refine (hfits v hv).trans ?_
    rw [o.maxValue_eq, h.whole.width_eq hone]
    exact valueMask_le_of_le h.whole.accessWidth_le
  cases o with
  | register r => exact Register.follows_physicalWrite h (hfits copy (List.mem_singleton_self copy))
  | array a => exact hmoved
  | entries mem start count => exact hmoved

end Copied

/-! ## Courses -/

namespace Copied

section Courses

variable (bus : Bus σ) (o : Copied) (options : SessionOptions)

/-- The whole object is read once, with these calls and this outcome. -/
def ReadBy (s : σ) (calls : List Call) (outcome : Except Fault o.Snapshot) : Prop :=
  bus.Carries s o.transfer.reads (fun words copy => o.values copy = o.transfer.joinEntries words)
    calls outcome

/-- A copy of the whole object is written once, with these calls and this outcome. -/
def WrittenBy (copy : o.Snapshot) (s : σ) (calls : List Call) (outcome : Except Fault Unit) :
    Prop :=
  bus.Carries s (o.transfer.writes (o.values copy)) (fun _ _ => True) calls outcome

/-- The course of a session as far as the first copy, with the calls and the outcome. -/
inductive Opens (s : σ) : List Call → Except Fault o.Snapshot → Prop
  | invalid {e : Fault} (hrange : o.checkBounds = .error e) : Opens s [] (.error e)
  /-- Verification needs an object that can be read. -/
  | unverifiable (hrange : o.checkBounds = .ok ()) (hread : o.mayRead = false)
      (hverify : options.verify = true) : Opens s [] (.error (.accessDenied o.name .read))
  | unread (hrange : o.checkBounds = .ok ()) (hread : o.mayRead = false)
      (hverify : options.verify = false) : Opens s [] (.ok o.blank)
  | read {calls : List Call} {outcome : Except Fault o.Snapshot} (hrange : o.checkBounds = .ok ())
      (hread : o.mayRead = true) (h : o.ReadBy bus s calls outcome) : Opens s calls outcome

/-- The course of a session from the last copy on. -/
inductive Closes (copy : o.Snapshot) (s : σ) : List Call → Except Fault Unit → Prop
  | skipped (hskip : options.skipWrite = true) : Closes copy s [] (.ok ())
  | refused {e : Fault} (hskip : options.skipWrite = false) (hcheck : o.checkCopy copy = .error e) :
      Closes copy s [] (.error e)
  | unwritten {calls : List Call} {e : Fault} (hskip : options.skipWrite = false)
      (hwritable : o.mayWrite = true) (hfits : ∀ v ∈ o.values copy, v ≤ o.maxValue)
      (h : o.WrittenBy bus copy s calls (.error e)) : Closes copy s calls (.error e)
  | written {calls : List Call} (hskip : options.skipWrite = false)
      (hwritable : o.mayWrite = true) (hfits : ∀ v ∈ o.values copy, v ≤ o.maxValue)
      (hverify : options.verify = false) (h : o.WrittenBy bus copy s calls (.ok ())) :
      Closes copy s calls (.ok ())
  /-- What was written is read once more and compared. -/
  | verified {calls calls' : List Call} {outcome : Except Fault o.Snapshot}
      (hskip : options.skipWrite = false) (hwritable : o.mayWrite = true)
      (hfits : ∀ v ∈ o.values copy, v ≤ o.maxValue) (hverify : options.verify = true)
      (h : o.WrittenBy bus copy s calls (.ok ()))
      (hread : o.ReadBy bus (bus.after s calls) calls' outcome) :
      Closes copy s (calls ++ calls') (outcome >>= fun actual =>
        verifyValues o.transfer.address o.transfer.stride (o.values copy) (o.values actual))

/-- The course of a session with an edit. -/
inductive Course (edit : o.Snapshot → Except Fault (o.Snapshot × α)) (s : σ) :
    List Call → Except Fault α → Prop
  | unopened {calls : List Call} {e : Fault} (hopen : o.Opens bus options s calls (.error e)) :
      Course edit s calls (.error e)
  | unedited {calls : List Call} {copy : o.Snapshot} {e : Fault}
      (hopen : o.Opens bus options s calls (.ok copy)) (hedit : edit copy = .error e) :
      Course edit s calls (.error e)
  | closed {calls calls' : List Call} {copy edited : o.Snapshot} {result : α}
      {outcome : Except Fault Unit} (hopen : o.Opens bus options s calls (.ok copy))
      (hedit : edit copy = .ok (edited, result))
      (hclose : o.Closes bus options edited (bus.after s calls) calls' outcome) :
      Course edit s (calls ++ calls') (outcome.map fun _ => result)

end Courses

variable {o : Copied} {options : SessionOptions} {copy : o.Snapshot}

section Targets

variable {m : Type → Type} [Port m]

lemma target_name (o : Copied) : (o.target (m := m)).name = o.name := by cases o <;> rfl

lemma target_lock (o : Copied) : (o.target (m := m)).lock = o.lock := by cases o <;> rfl

lemma target_valid (o : Copied) : (o.target (m := m)).valid = o.checkRange := by cases o <;> rfl

lemma target_blank (o : Copied) : (o.target (m := m)).blank = o.blank := by cases o <;> rfl

lemma target_readable (o : Copied) : (o.target (m := m)).readable =
    if o.mayRead then .ok () else .error (.accessDenied o.name .read) := by
  cases o <;> rfl

lemma target_verify (o : Copied) (written actual : o.Snapshot) :
    verifyValues (o.target (m := m)).address (o.target (m := m)).stride
        ((o.target (m := m)).values written) ((o.target (m := m)).values actual) =
      verifyValues o.transfer.address o.transfer.stride (o.values written) (o.values actual) := by
  -- the spacing does not matter for the single value of a register
  cases o <;> rfl

end Targets

/-- A copy that a session starts from has one value for each entry. -/
lemma Opens.whole {s : σ} {calls : List Call} (h : o.Admitted)
    (hopen : o.Opens bus options s calls (.ok copy)) :
    o.checkBounds = .ok () ∧ o.Whole copy := by
  cases hopen with
  | unread hrange => exact ⟨hrange, o.whole_blank⟩
  | read hrange _ hload => exact ⟨hrange, h.whole_of_load hload⟩

lemma opens_snapshot (bus : Bus σ) (h : o.Admitted) (hend : o.EndCounts)
    (options : SessionOptions) (w : World σ) :
    ∃ calls, Made bus w (Blocking.run (o.target.snapshot options) bus w).2 calls ∧
      o.Opens bus options w.bus calls (Blocking.run (o.target.snapshot options) bus w).1 := by
  unfold SessionTarget.snapshot
  rw [o.target_valid, o.target_readable, o.target_blank, checkRange_eq_checkBounds hend]
  cases hrange : o.checkBounds with
  | error e => exact ⟨[], .refl w, .invalid hrange⟩
  | ok _ =>
    have hload := follows_load bus h ((checkRange_eq_checkBounds hend).trans hrange) w
    cases hread : o.mayRead with
    | true =>
      obtain ⟨calls, hmade, hload⟩ := hload
      cases options.verify <;> exact ⟨calls, hmade, .read hrange hread hload⟩
    | false =>
      cases hverify : options.verify with
      | true => exact ⟨[], .refl w, .unverifiable hrange hread hverify⟩
      | false => exact ⟨[], .refl w, .unread hrange hread hverify⟩

lemma closes_writeBack (bus : Bus σ) (h : o.Admitted) (options : SessionOptions)
    (hrange : o.checkRange = .ok ()) (hwhole : o.Whole copy) (w : World σ) :
    ∃ calls, Made bus w (Blocking.run (o.target.writeBack options copy) bus w).2 calls ∧
      o.Closes bus options copy w.bus calls
        (Blocking.run (o.target.writeBack options copy) bus w).1 := by
  unfold SessionTarget.writeBack
  cases hskip : options.skipWrite with
  | true => exact ⟨[], .refl w, .skipped hskip⟩
  | false =>
    rw [if_neg Bool.false_ne_true, store_eq hrange hwhole]
    cases hcheck : o.checkCopy copy with
    | error e => exact ⟨[], .refl w, .refused hskip hcheck⟩
    | ok _ =>
      obtain ⟨hwritable, hfits⟩ := checkCopy_eq_ok.1 hcheck
      obtain ⟨calls, hmade, hstore⟩ := follows_physicalStore bus h hwhole hfits w
      rw [show (Port.decide (Except.ok _) >>= fun _ => o.physicalStore copy : Blocking σ Unit) =
        o.physicalStore copy from rfl, run_bind]
      revert hmade hstore
      rcases (o.physicalStore copy).run bus w with ⟨e | _, w₁⟩ <;> intro hmade hstore
      · exact ⟨calls, hmade, .unwritten hskip hwritable hfits hstore⟩
      cases hverify : options.verify with
      | false => exact ⟨calls, hmade, .written hskip hwritable hfits hverify hstore⟩
      | true =>
        obtain ⟨calls', hmade', hload⟩ := follows_load bus h hrange w₁
        rw [hmade.state] at hload
        have hback := Closes.verified hskip hwritable hfits hverify hstore hload
        dsimp only
        rw [if_pos rfl, run_bind]
        revert hmade' hback
        rcases Blocking.run o.target.load bus w₁ with ⟨e | actual, w₂⟩ <;> intro hmade' hback
        · exact ⟨calls ++ calls', hmade.trans hmade', hback⟩
        · dsimp only
          rw [run_decide, target_verify]
          exact ⟨calls ++ calls', hmade.trans hmade', hback⟩

/-- A session whose lock is held takes its course. -/
lemma course_body (bus : Bus σ) (h : o.Admitted) (hend : o.EndCounts) (options : SessionOptions)
    {edit : o.Snapshot → Except Fault (o.Snapshot × α)}
    (hedit : ∀ copy edited result, edit copy = .ok (edited, result) →
      (o.values edited).length = (o.values copy).length) {body : Blocking σ α}
    (hbody : body = o.target.snapshot options >>= fun copy =>
      Port.decide (edit copy) >>= fun p => o.target.writeBack options p.1 >>= fun _ => pure p.2)
    (w : World σ) :
    ∃ calls, Made bus w (body.run bus w).2 calls ∧
      o.Course bus options edit w.bus calls (body.run bus w).1 := by
  subst hbody
  obtain ⟨calls, hmade, hopen⟩ := opens_snapshot bus h hend options w
  rw [run_bind]
  revert hmade hopen
  rcases Blocking.run (o.target.snapshot options) bus w with ⟨e | copy, w₁⟩ <;> intro hmade hopen
  · exact ⟨calls, hmade, .unopened hopen⟩
  obtain ⟨hbounds, hwhole⟩ := hopen.whole h
  have hrange := (checkRange_eq_checkBounds hend).trans hbounds
  dsimp only
  rw [run_bind, run_decide]
  cases hresult : edit copy with
  | error e => exact ⟨calls, hmade, .unedited hopen hresult⟩
  | ok p =>
    have hwhole' : o.Whole p.1 := (hedit copy p.1 p.2 hresult).trans hwhole
    obtain ⟨calls', hmade', hclose⟩ := closes_writeBack bus h options hrange hwhole' w₁
    rw [hmade.state] at hclose
    have hcourse := Course.closed hopen hresult hclose
    dsimp only
    rw [run_bind]
    revert hmade' hcourse
    rcases Blocking.run (o.target.writeBack options p.1) bus w₁ with ⟨e | _, w₂⟩ <;>
      intro hmade' hcourse <;> exact ⟨calls ++ calls', hmade.trans hmade', hcourse⟩

end Copied

/-! ## Locks -/

/-- A request that takes no lock and gives none back. -/
def Request.KeepsLocks : Request → Prop
  | .acquire _ | .release _ => False
  | .call _ | .blockReads | .blockWrites => True

lemma allows_keepsLocks : Allows Request.KeepsLocks true true :=
  ⟨trivial, trivial, fun _ _ _ => trivial, fun _ _ _ => trivial⟩

namespace Blocking

/-- The operation leaves all locks as they were. -/
def LeavesLocks (bus : Bus σ) (x : Blocking σ α) : Prop := ∀ w, (x.run bus w).2.locks = w.locks

namespace LeavesLocks

variable {x : Blocking σ α} {f : α → Blocking σ β}

lemma bind (hx : LeavesLocks bus x) (hf : ∀ a, LeavesLocks bus (f a)) :
    LeavesLocks bus (x >>= f) := by
  intro w
  have hlocks := hx w
  rw [run_bind]
  revert hlocks
  rcases x.run bus w with ⟨e | a, w₁⟩ <;> intro hlocks
  · exact hlocks
  · exact (hf a w₁).trans hlocks

lemma decide (outcome : Except Fault α) : LeavesLocks bus (Port.decide outcome) := by
  intro w
  rw [run_decide]

lemma attempt (hx : LeavesLocks bus x) : LeavesLocks bus (Port.attempt x) := by
  intro w
  rw [run_attempt]
  exact hx w

/-- A lock that is held during an operation is given back. -/
lemma holding (hx : LeavesLocks bus x) (lock : LockId) (name : String) :
    LeavesLocks bus (Port.holding lock name x) := by
  intro w
  rw [run_holding]
  by_cases hfree : w.locks.Free lock
  · have htaken := LockForest.acquire_of_free hfree
    rw [htaken]
    change LockForest.release (x.run bus _).2.locks lock = w.locks
    rw [hx]
    exact LockForest.release_of_acquire htaken
  · rw [LockForest.acquire_of_not_free hfree]

/-- An operation that asks for no lock. -/
lemma of_asks {y : Suspended α} {Q : α → Prop} (hdrives : Drives bus y x)
    (hasks : Suspended.Asks Request.KeepsLocks Q y) : LeavesLocks bus x := by
  intro w
  rw [← hdrives w]
  refine hasks.keeps (fun w' => w'.locks = w.locks) ?_ rfl
  rintro q hq w' hw'
  cases q with
  | call c => exact hw'
  | blockReads => exact hw'
  | blockWrites => exact hw'
  | acquire lock => exact hq.elim
  | release lock => exact hq.elim

lemma perform (op : DeviceOperation) : LeavesLocks bus op.perform :=
  of_asks ((movesWords_driven bus).perform op)
    ((allows_keepsLocks.mono (fun _ => rfl) fun _ => rfl).asks_perform op)

lemma withCached (o : Copied) (options : SessionOptions)
    {edit : o.Snapshot → Blocking σ (o.Snapshot × α)}
    (hedit : ∀ copy, LeavesLocks bus (edit copy)) :
    LeavesLocks bus (o.target.withCached options edit) := by
  have hsame := (movesWords_driven bus).sameTarget o
  have hload := o.asks_load allows_keepsLocks
  have hstore := o.asks_store (allows_keepsLocks.mono id fun _ => rfl)
  refine .holding ?_ _ _
  have hcopy := SessionTarget.asks_snapshot options fun _ => hload
  refine .bind (.of_asks (hsame.snapshot options) hcopy) ?_
  refine fun copy => .bind (hedit copy) fun edited => ?_
  have hback := SessionTarget.asks_writeBack options hstore (fun _ => hload) edited.1
  exact .bind (.of_asks (hsame.writeBack options edited.1) hback) fun _ => .decide (.ok edited.2)

/-- Whatever a program does, its sessions give their locks back. -/
theorem run (p : Program α) : LeavesLocks bus p.run := by
  induction p with
  | done outcome => exact .decide outcome
  | perform op next ih => exact .bind (.attempt (.perform op)) ih
  | session o options body next ihbody ihnext =>
    exact .bind (.attempt (.withCached o options ihbody)) ihnext

end LeavesLocks

end Blocking

/-! ## Sessions -/

/-- On any bus, a session whose edit keeps the number of values makes no call if its lock is not
free, and takes its course otherwise, provided that the end of its range can be counted and that the
object, if its range is valid, lies in the address space; the addresses of its words, computed with
64 bits, are then those of its entries.  And whatever the body of a session does, with operations
that fail and with sessions of its own, all locks are afterwards as they were. -/
theorem session_course (bus : Bus σ) (w : World σ) (o : Copied) (options : SessionOptions) :
    (o.Admitted → o.EndCounts → (o.checkBounds = .ok () → o.Addressable) →
      (o.checkBounds = .ok () → o.checkedWords =
        .ok ((List.range o.transfer.entries).flatMap o.transfer.wordAddresses)) ∧
      ∀ edit : o.Snapshot → Except Fault (o.Snapshot × α),
      (∀ copy edited result, edit copy = .ok (edited, result) →
        (o.values edited).length = (o.values copy).length) →
      let r := Blocking.run (o.target.withCached options fun copy => Port.decide (edit copy)) bus w
      ∃ calls, r.2.trace = w.trace ++ calls ∧ r.2.bus = bus.after w.bus calls ∧
        if (w.locks.acquire o.lock).1 = true then o.Course bus options edit w.bus calls r.1
        else calls = [] ∧ r.1 = .error (.sessionActive o.name)) ∧
    ∀ body : o.Snapshot → Program (o.Snapshot × β),
      (Blocking.run (o.target.withCached options fun copy => (body copy).run) bus w).2.locks =
        w.locks := by
  refine ⟨fun h hend hspace => ⟨fun hbounds => Copied.checkedWords_eq h (hspace hbounds),
    fun edit hedit => ?_⟩, fun body => LeavesLocks.withCached o options
    (fun copy => LeavesLocks.run (body copy)) w⟩
  dsimp only
  unfold SessionTarget.withCached
  rw [run_holding, o.target_lock, o.target_name]
  rcases w.locks.acquire o.lock with ⟨_ | _, locks⟩
  · exact ⟨[], (List.append_nil _).symm, rfl, rfl, rfl⟩
  · obtain ⟨calls, hmade, hcourse⟩ :=
      Copied.course_body bus h hend options hedit rfl { w with locks }
    exact ⟨calls, hmade.trace, hmade.state, hcourse⟩

/-- The register is read in two words, and of the changed copy the second word is refused.  A
session inside of a session on the same register does not open, and leaves the lock taken by the
outer one alone. -/
theorem second_word_of_copy_is_refused :
    let o : Copied := .register .straddled
    let edit : ℕ → Except Fault (ℕ × Unit) := fun copy => .ok (copy + 0x10002, ())
    let w : World Unit := ⟨(), (LockForest.empty.create none).1, []⟩
    let r := Blocking.run (o.target.withCached .verified fun copy => Port.decide (edit copy))
      (Bus.refusing 0x12) w
    let nested : ℕ → Program (ℕ × Unit) := fun copy =>
      .session (.register .straddled) .plain (fun inner => .done (.ok (inner, ()))) fun outcome =>
        .done (outcome.map fun _ => (copy, ()))
    (o.Admitted ∧ o.Addressable) ∧ o.checkedWords = .ok [0x10, 0x12] ∧
      (r.1 = .error (.bus 0x12 "refused") ∧ r.2.trace = [.read 0x10 16 16,
        .read 0x12 16 16, .write 0x10 16 16 0x2, .write 0x12 16 16 0x1]) ∧
      o.Course (Bus.refusing 0x12) .verified edit () r.2.trace r.1 ∧
      (Blocking.run (o.target.withCached .plain fun copy => (nested copy).run) (Bus.refusing 0x12)
        w).2.locks = w.locks := by
  intro o edit w r nested
  have hadmitted : o.Admitted := Register.admitted_straddled.sizes
  have hspace : o.Addressable := ⟨by decide, by decide, by decide⟩
  have hedit : ∀ copy edited result, edit copy = .ok (edited, result) →
      (o.values edited).length = (o.values copy).length := fun _ _ _ _ => rfl
  obtain ⟨hwords, hcourses⟩ := (session_course (β := Unit) (Bus.refusing 0x12) w o .verified).1
    hadmitted trivial fun _ => hspace
  obtain ⟨calls, htrace, -, hcourse⟩ := hcourses edit hedit
  have hcalls : r.2.trace = calls := htrace
  rw [if_pos (show (w.locks.acquire o.lock).1 = true by decide), ← hcalls] at hcourse
  exact ⟨⟨hadmitted, hspace⟩, (hwords rfl).trans (by decide +kernel), ⟨rfl, rfl⟩, hcourse,
    (session_course (α := Unit) (Bus.refusing 0x12) w o .plain).2 nested⟩

/-- Of a memory of the largest size, the byte behind the last one is copied: the range is invalid, it
lies in the address space, and the session on it does not stop before its first call. -/
theorem byte_beyond_last_is_copied :
    let o : Copied := .entries .bytes MemoryLayout.maxCount 1
    let w : World Simulator := ⟨.new, (LockForest.empty.create none).1, []⟩
    let r := Blocking.run (o.target.withCached .readOnly fun copy => Port.decide (.ok (copy, ())))
      Simulator.toBus w
    (o.Admitted ∧ o.Addressable) ∧
      o.checkBounds = .error (.indexOutOfRange [MemoryLayout.maxCount, 1] [MemoryLayout.maxCount]) ∧
      (r.1 = .ok () ∧ r.2.trace = [.readBlock MemoryLayout.maxCount 8 8 1]) ∧
      ¬ o.Opens Simulator.toBus .readOnly w.bus r.2.trace (.ok [0]) := by
  intro o w r
  have hbounds : o.checkBounds =
      .error (.indexOutOfRange [MemoryLayout.maxCount, 1] [MemoryLayout.maxCount]) := rfl
  refine ⟨⟨⟨by decide, by decide, by decide, by decide, by decide, by decide⟩,
    ⟨by decide, by decide, by decide⟩⟩, hbounds, ⟨rfl, rfl⟩, fun hopens => ?_⟩
  -- in its course, the session would not open
  cases hopens with
  | read hrange => cases hbounds.symm.trans hrange

end RegisterMap
