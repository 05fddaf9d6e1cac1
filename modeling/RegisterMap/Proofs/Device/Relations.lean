import Mathlib
import RegisterMap.Proofs.Bus.Cells
import RegisterMap.Proofs.Device.Programs

/-!
# Operations that go alike in two ports

Devices are written once, for every port.  If two ports are related in a way that goes along with
`do`, with failures and attempts, with calls and with locks, then the whole device layer is related:
every operation (`perform`), every session (`withCached`) and every program (`run`).

Only two primitives ask whether block accesses are offered, the moving of words in either direction.
They are left to the user of a relation (`MovesWords`), because the relation decides whether the
answer may differ.  A relation that allows for all requests relates them too (`movesWords_of_ask`).
-/

namespace RegisterMap

/-- A relation between the computations of two ports. -/
structure PortRelation (m n : Type → Type) [Port m] [Port n] where
  rel : {α : Type} → m α → n α → Prop
  pure : ∀ {α : Type} (a : α), rel (Pure.pure a) (Pure.pure a)
  bind : ∀ {α β : Type} {x : m α} {y : n α} {f : α → m β} {g : α → n β},
    rel x y → (∀ a, rel (f a) (g a)) → rel (x >>= f) (y >>= g)
  fail : ∀ {α : Type} (e : Fault), rel (Port.fail e : m α) (Port.fail e)
  attempt : ∀ {α : Type} {x : m α} {y : n α}, rel x y → rel (Port.attempt x) (Port.attempt y)
  call : ∀ c : Call, rel (Port.call c) (Port.call c)
  acquire : ∀ lock : LockId, rel (Port.ask (.acquire lock)) (Port.ask (.acquire lock))
  release : ∀ lock : LockId, rel (Port.ask (.release lock)) (Port.ask (.release lock))

namespace PortRelation

variable {m n : Type → Type} [Port m] [Port n] (R : PortRelation m n) {α β : Type}

lemma decide (outcome : Except Fault α) : R.rel (Port.decide outcome) (Port.decide outcome) := by
  cases outcome with
  | ok a => exact R.pure a
  | error e => exact R.fail e

/-- Items that are treated one after the other. -/
lemma mapM [LawfulMonad m] [LawfulMonad n] {ι : Type} {f : ι → m α} {g : ι → n α} {l : List ι}
    (h : ∀ i, R.rel (f i) (g i)) : R.rel (l.mapM f) (l.mapM g) := by
  induction l with
  | nil => exact R.pure []
  | cons i rest ih =>
    rw [List.mapM_cons, List.mapM_cons]
    refine R.bind (h i) fun a => ?_
    exact R.bind ih fun as => R.pure (a :: as)

lemma forM {ι : Type} {f : ι → m PUnit} {g : ι → n PUnit} {l : List ι}
    (h : ∀ i, R.rel (f i) (g i)) : R.rel (l.forM f) (l.forM g) := by
  induction l with
  | nil => exact R.pure ()
  | cons i rest ih => exact R.bind (h i) fun _ => ih

/-! ## Words -/

/-- The moving of words is related. -/
structure MovesWords : Prop where
  readWords : ∀ t : Transfer, R.rel t.readWords t.readWords
  writeWords : ∀ (t : Transfer) (words : List ℕ), R.rel (t.writeWords words) (t.writeWords words)

variable {R}

/-- Given an answer about block reads, all that is left are calls. -/
lemma readOffered [LawfulMonad m] [LawfulMonad n] (t : Transfer) (offered : Bool) :
    R.rel (t.readOffered offered) (t.readOffered offered) := by
  unfold Transfer.readOffered
  split
  · refine R.bind (R.call _) fun words => ?_
    split
    · exact R.pure words
    · exact R.fail _
  · exact R.mapM fun i => R.call _

lemma writeOffered (t : Transfer) (words : List ℕ) (offered : Bool) :
    R.rel (t.writeOffered words offered) (t.writeOffered words offered) := by
  unfold Transfer.writeOffered
  split
  · exact R.call _
  · exact R.forM fun p => R.call _

/-- A relation that allows for every request relates the moving of words. -/
theorem movesWords_of_ask [LawfulMonad m] [LawfulMonad n]
    (h : ∀ q : Request, R.rel (Port.ask q) (Port.ask q)) : R.MovesWords where
  readWords t := by
    rw [Transfer.readWords_eq, Transfer.readWords_eq]
    split
    · exact R.pure []
    · exact R.bind (h .blockReads) fun offered => readOffered t offered
  writeWords t words := by
    rw [Transfer.writeWords_eq, Transfer.writeWords_eq]
    split
    · exact R.fail _
    · split
      · exact R.pure ()
      · exact R.bind (h .blockWrites) fun offered => writeOffered t words offered

namespace MovesWords

variable (h : R.MovesWords)
include h

/-! ## Devices -/

lemma writeRuns (runs : List Transfer) (words : List ℕ) :
    R.rel (Transfer.writeRuns runs words) (Transfer.writeRuns runs words) := by
  induction runs generalizing words with
  | nil => exact R.pure ()
  | cons run rest ih => exact R.bind (h.writeWords run _) fun _ => ih _

lemma writeValues (t : Transfer) (values : List ℕ) :
    R.rel (t.writeValues values) (t.writeValues values) := by
  unfold Transfer.writeValues
  refine R.bind (R.decide _) fun _ => ?_
  exact R.bind (R.decide _) fun words => h.writeRuns _ words

lemma physicalRead (r : Register) : R.rel r.physicalRead r.physicalRead := by
  unfold Register.physicalRead
  split
  · exact R.bind (h.readWords _) fun words => R.pure _
  · exact R.call _

lemma physicalWrite (r : Register) (value : ℕ) :
    R.rel (r.physicalWrite value) (r.physicalWrite value) := by
  unfold Register.physicalWrite
  split
  · exact h.writeWords _ _
  · exact R.bind (R.decide _) fun word => R.call _

lemma readRegister (r : Register) : R.rel r.read r.read :=
  R.bind (R.decide _) fun _ => h.physicalRead r

lemma writeRegister (r : Register) (value : ℕ) : R.rel (r.write value) (r.write value) := by
  refine R.bind (R.decide _) fun _ => ?_
  exact R.bind (R.decide _) fun _ => h.physicalWrite r value

lemma writeFields (r : Register) (args : FieldValues) :
    R.rel (r.writeFields args) (r.writeFields args) := by
  unfold Register.writeFields
  refine R.bind (R.decide _) fun prepared => ?_
  refine R.bind (R.decide _) fun _ => ?_
  split
  · exact R.bind (h.physicalRead r) fun base => h.physicalWrite r _
  · exact R.bind (R.pure 0) fun base => h.physicalWrite r _

lemma readField (f : Field) : R.rel f.read f.read := by
  refine R.bind (R.decide _) fun _ => ?_
  exact R.bind (h.physicalRead _) fun raw => R.decide _

lemma readMember [FieldEnum α] (f : Field) : R.rel (f.readEnum α) (f.readEnum α) := by
  unfold Field.readEnum
  refine R.bind (h.readField f) fun value => ?_
  split
  · exact R.pure _
  · exact R.fail _

lemma writeAll (a : RegisterArray) (values : List ℕ) :
    R.rel (a.writeAll values) (a.writeAll values) := by
  refine R.bind (R.decide _) fun _ => ?_
  exact R.bind (R.decide _) fun _ => h.writeValues _ values

lemma writeMemory (mem : Memory) (start : ℕ) (values : List ℕ) :
    R.rel (mem.write start values) (mem.write start values) := by
  refine R.bind (R.decide _) fun _ => ?_
  refine R.bind (R.decide _) fun _ => ?_
  exact R.bind (R.decide _) fun _ => h.writeValues _ values

variable [LawfulMonad m] [LawfulMonad n]

lemma readValues (t : Transfer) :
    R.rel t.readValues t.readValues := by
  unfold Transfer.readValues
  refine R.bind (R.decide _) fun _ => ?_
  exact R.bind (R.mapM fun run => h.readWords run) fun words => R.pure _

lemma readAll (a : RegisterArray) : R.rel a.readAll a.readAll :=
  R.bind (R.decide _) fun _ => h.readValues _

lemma physicalReadMemory (mem : Memory) (start count : ℕ) :
    R.rel (mem.physicalRead start count) (mem.physicalRead start count) :=
  R.bind (R.decide _) fun _ => h.readValues _

lemma readMemory (mem : Memory) (start count : ℕ) :
    R.rel (mem.read start count) (mem.read start count) :=
  R.bind (R.decide _) fun _ => h.physicalReadMemory mem start count

/-- Every operation is related. -/
theorem perform (op : DeviceOperation) : R.rel op.perform op.perform := by
  cases op with
  | readWords t => exact h.readWords t
  | writeWords t words => exact h.writeWords t words
  | readValues t => exact h.readValues t
  | writeValues t values => exact h.writeValues t values
  | readRegister r => exact h.readRegister r
  | writeRegister r value => exact h.writeRegister r value
  | readFields r => exact R.bind (h.readRegister r) fun raw => R.decide _
  | writeFields r args => exact h.writeFields r args
  | readField f => exact h.readField f
  | readFieldValue f =>
    refine R.bind (R.decide _) fun _ => ?_
    exact R.bind (h.physicalRead _) fun raw => R.decide _
  | writeField f value => exact h.writeFields _ _
  | readMember f α => exact h.readMember f
  | writeMember f α a => exact h.writeFields _ _
  | readAll a => exact h.readAll a
  | writeAll a values => exact h.writeAll a values
  | readFieldsAll a => exact R.bind (h.readAll a) fun values => R.decide _
  | readElements a => exact R.bind (h.readAll a) fun values => R.pure _
  | writeElements a buffer => exact h.writeAll a _
  | readMemory mem start count => exact h.readMemory mem start count
  | writeMemory mem start values => exact h.writeMemory mem start values
  | readEntry mem index => exact R.bind (h.readMemory mem index 1) fun values => R.pure _
  | writeEntry mem index value => exact h.writeMemory mem index [value]
  | readBuffer mem start count => exact R.bind (h.readMemory mem start count) fun values => R.pure _
  | writeBuffer mem start buffer => exact h.writeMemory mem start _
  | readBits mem start count => exact R.bind (h.readMemory mem start count) fun values => R.pure _
  | writeBits mem start bits =>
    change R.rel (mem.writeBits start bits) (mem.writeBits start bits)
    unfold Memory.writeBits
    dsimp only
    split
    · exact h.writeMemory mem start _
    · exact R.fail _

end MovesWords

/-! ## Sessions -/

/-- The object of a session, seen in two ports. -/
structure SameTarget (R : PortRelation m n) {S : Type} (t : SessionTarget m S)
    (t' : SessionTarget n S) : Prop where
  name : t.name = t'.name
  lock : t.lock = t'.lock
  valid : t.valid = t'.valid
  readable : t.readable = t'.readable
  blank : t.blank = t'.blank
  values : t.values = t'.values
  address : t.address = t'.address
  stride : t.stride = t'.stride
  load : R.rel t.load t'.load
  store : ∀ copy, R.rel (t.store copy) (t'.store copy)

lemma MovesWords.sameTarget [LawfulMonad m] [LawfulMonad n] (h : R.MovesWords) (o : Copied) :
    R.SameTarget o.target o.target := by
  cases o with
  | register r =>
    exact ⟨rfl, rfl, rfl, rfl, rfl, rfl, rfl, rfl, h.physicalRead r, h.writeRegister r⟩
  | array a => exact ⟨rfl, rfl, rfl, rfl, rfl, rfl, rfl, rfl, h.readValues _, h.writeAll a⟩
  | entries mem start count =>
    exact ⟨rfl, rfl, rfl, rfl, rfl, rfl, rfl, rfl, h.physicalReadMemory mem start count,
      h.writeMemory mem start⟩

namespace SameTarget

variable {S : Type} {t : SessionTarget m S} {t' : SessionTarget n S} (h : R.SameTarget t t')
include h

/-- The first copies. -/
lemma snapshot (options : SessionOptions) : R.rel (t.snapshot options) (t'.snapshot options) := by
  unfold SessionTarget.snapshot
  rw [h.valid, h.readable, h.blank]
  refine R.bind (R.decide _) fun _ => ?_
  -- an object that cannot be read is blank, and it cannot be verified
  cases t'.readable with
  | ok _ =>
    cases options.verify with
    | false => exact h.load
    | true => exact R.bind (R.decide _) fun _ => h.load
  | error e =>
    cases options.verify with
    | false => exact R.pure _
    | true => exact R.bind (R.decide _) fun _ => R.pure _

lemma writeBack (options : SessionOptions) (copy : S) :
    R.rel (t.writeBack options copy) (t'.writeBack options copy) := by
  unfold SessionTarget.writeBack
  split
  · exact R.pure ()
  · refine R.bind (h.store copy) fun _ => ?_
    split
    · refine R.bind h.load fun actual => ?_
      rw [h.address, h.stride, h.values]
      exact R.decide _
    · exact R.pure ()

/-- Sessions with related edits. -/
theorem withCached (options : SessionOptions) {edit : S → m (S × α)} {edit' : S → n (S × α)}
    (hedit : ∀ copy, R.rel (edit copy) (edit' copy)) :
    R.rel (t.withCached options edit) (t'.withCached options edit') := by
  unfold SessionTarget.withCached Port.holding
  rw [h.name, h.lock]
  refine R.bind (R.acquire _) fun taken => ?_
  split
  · refine R.bind (R.attempt ?_) fun outcome => R.bind (R.release _) fun _ => R.decide outcome
    refine R.bind (h.snapshot options) fun copy => ?_
    refine R.bind (hedit copy) fun edited => ?_
    exact R.bind (h.writeBack options edited.1) fun _ => R.pure edited.2
  · exact R.fail _

end SameTarget

/-- Every program is related. -/
theorem MovesWords.run [LawfulMonad m] [LawfulMonad n] (h : R.MovesWords) (p : Program α) :
    R.rel p.run p.run := by
  induction p with
  | done outcome => exact R.decide outcome
  | perform op next ih => exact R.bind (R.attempt (h.perform op)) ih
  | session o options body next ihbody ihnext =>
    exact R.bind (R.attempt ((h.sameTarget o).withCached options ihbody)) ihnext

end PortRelation

end RegisterMap
