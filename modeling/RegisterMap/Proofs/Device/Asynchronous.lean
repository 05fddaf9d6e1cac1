import Mathlib
import RegisterMap.Device.Asynchronous
import RegisterMap.Proofs.Bus.Plans
import RegisterMap.Proofs.Bus.Suspended

/-!
# The asynchronous flavour, operation by operation

Asynchronous operations are written on their own, with loops of their own and in other steps than
the blocking ones.  As programs they are what the blocking operations are when these are suspended
at their requests: they check in the same order, ask for the same and fail alike
(`DeviceOperation.performAsync_eq`).
-/

namespace RegisterMap

open Port Suspended

/-! ## Loops -/

section Loops

variable {m : Type → Type} [Monad m] [LawfulMonad m] {ι α β : Type}

/-- A loop that gathers what its steps give. -/
lemma forIn_gather (l : List ι) (init : List β) (f : ι → m α) (g : α → List β) :
    (forIn l init fun i data => do
      let a ← f i
      pure (.yield (data ++ g a))) = (fun as => init ++ as.flatMap g) <$> l.mapM f := by
  induction l generalizing init with
  | nil => simp
  | cons i rest ih =>
    rw [List.forIn_cons, List.mapM_cons, bind_assoc, map_bind]
    refine bind_congr fun a => ?_
    rw [pure_bind]
    refine (ih _).trans ?_
    simp

/-- A loop that keeps nothing. -/
lemma forIn_forM (l : List ι) (f : ι → m PUnit) :
    (forIn l PUnit.unit fun i _ => do
      f i
      pure (.yield PUnit.unit)) = l.forM f := by
  induction l with
  | nil => rfl
  | cons i rest ih =>
    rw [List.forIn_cons, bind_assoc]
    simp only [pure_bind, ih]
    rfl

/-- Checks one after the other are one check. -/
lemma forM_decide (l : List ι) (check : ι → Except Fault PUnit) :
    (l.forM fun i => Port.decide (check i) : Suspended PUnit) = Port.decide (l.forM check) := by
  induction l with
  | nil => rfl
  | cons i rest ih =>
    change (Port.decide (check i) >>= fun _ => rest.forM fun i => Port.decide (check i)) =
      Port.decide (check i >>= fun _ => rest.forM check)
    rw [ih]
    cases check i <;> rfl

end Loops

/-! ## Transfers -/

namespace Transfer

variable (t : Transfer)

lemma readWordsAsync_eq : t.readWordsAsync = t.readWords := by
  unfold readWordsAsync
  rw [readWords_eq]
  by_cases hzero : t.entries = 0
  · rw [if_pos hzero, if_pos hzero]
  rw [if_neg hzero, if_neg hzero]
  refine bind_congr fun offered => ?_
  unfold readOffered
  rw [Bool.and_comm offered]
  by_cases hblock : (t.isContiguous && offered) = true
  · rw [if_pos hblock, if_pos hblock]
    refine bind_congr fun words => ?_
    by_cases hlength : words.length = t.entries
    · simp [hlength]
    · simp only [hlength, ne_eq, not_false_eq_true, if_true, if_false]
      rfl
  · rw [if_neg hblock, if_neg hblock]
    dsimp only
    rw [bind_pure, forIn_gather]
    simp

lemma writeWordsAsync_eq (words : List ℕ) : t.writeWordsAsync words = t.writeWords words := by
  unfold writeWordsAsync
  rw [writeWords_eq]
  by_cases hlength : words.length = t.entries
  · simp only [hlength, ne_eq, not_true, if_false]
    by_cases hempty : words.isEmpty = true
    · rw [if_pos hempty, if_pos hempty]
    rw [if_neg hempty, if_neg hempty]
    refine bind_congr fun offered => ?_
    unfold writeOffered
    rw [Bool.and_comm offered]
    by_cases hblock : (t.isContiguous && offered) = true
    · rw [if_pos hblock, if_pos hblock]
    · rw [if_neg hblock, if_neg hblock, forIn_forM, bind_pure_unit]
  · simp only [ne_eq, hlength, not_false_eq_true, if_true]
    rfl

lemma readValuesAsync_eq : t.readValuesAsync = t.readValues := by
  unfold readValuesAsync readValues
  refine bind_congr fun _ => ?_
  simp only [readWordsAsync_eq]
  have hloop := forIn_gather t.wordTransfers [] (m := Suspended) (fun run => run.readWords) id
  dsimp only [id] at hloop
  rw [hloop]
  simp

lemma forIn_writeRuns (runs : List Transfer) (words : List ℕ) :
    (do
      let _ ← forIn runs words fun run rest => do
        let (head, tail) := rest.splitAt run.entries
        run.writeWordsAsync head
        pure (.yield tail)
      pure ()) = writeRuns (m := Suspended) runs words := by
  induction runs generalizing words with
  | nil => rfl
  | cons run rest ih =>
    rw [List.forIn_cons, writeRuns, List.splitAt_eq]
    dsimp only
    rw [writeWordsAsync_eq]
    simp only [bind_assoc, pure_bind]
    exact bind_congr fun _ => ih _

lemma writeValuesAsync_eq (values : List ℕ) : t.writeValuesAsync values = t.writeValues values := by
  unfold writeValuesAsync writeValues
  refine bind_congr fun _ => bind_congr fun words => ?_
  exact forIn_writeRuns _ _

end Transfer

/-! ## Registers and fields -/

namespace Register

variable (r : Register)

lemma physicalReadAsync_eq : r.physicalReadAsync = r.physicalRead := by
  unfold physicalReadAsync physicalRead
  rw [Transfer.readWordsAsync_eq]

lemma physicalWriteAsync_eq (value : ℕ) : r.physicalWriteAsync value = r.physicalWrite value := by
  unfold physicalWriteAsync physicalWrite
  rw [Transfer.writeWordsAsync_eq]

lemma readAsync_eq : r.readAsync = r.read := by
  unfold readAsync read
  rw [physicalReadAsync_eq]

lemma writeAsync_eq (value : ℕ) : r.writeAsync value = r.write value := by
  unfold writeAsync write
  rw [physicalWriteAsync_eq]

lemma writeFieldsAsync_eq (args : FieldValues) : r.writeFieldsAsync args = r.writeFields args := by
  unfold writeFieldsAsync writeFields
  refine bind_congr fun prepared => bind_congr fun _ => ?_
  simp only [physicalReadAsync_eq, physicalWriteAsync_eq]
  split <;> simp

end Register

namespace Field

variable (f : Field)

lemma readAsync_eq : f.readAsync = f.read := by
  unfold readAsync read
  rw [Register.physicalReadAsync_eq]

lemma readEnumAsync_eq (α : Type) [FieldEnum α] : f.readEnumAsync α = f.readEnum α := by
  unfold readEnumAsync
  rw [readAsync_eq]
  rfl

end Field

/-! ## Arrays and memories -/

namespace RegisterArray

variable (a : RegisterArray)

lemma readAllAsync_eq : a.readAllAsync = a.readAll := by
  unfold readAllAsync physicalReadAllAsync readAll physicalReadAll
  rw [Transfer.readValuesAsync_eq]

lemma writeAllAsync_eq (values : List ℕ) : a.writeAllAsync values = a.writeAll values := by
  unfold writeAllAsync writeAll checkValues
  refine bind_congr fun _ => ?_
  rw [Transfer.writeValuesAsync_eq]
  by_cases hlength : values.length = a.size
  · simp only [hlength, ne_eq, not_true, if_true, if_false]
    rw [forIn_forM, forM_decide]
  · simp only [hlength, ne_eq, not_false_eq_true, if_true, if_false]
    rfl

end RegisterArray

namespace Memory

variable (mem : Memory)

lemma checkedTransfer_eq (start count : ℕ) : mem.checkedTransfer start count =
    mem.layout.checkRange start count >>= fun _ => .ok (mem.layout.transfer start count) := by
  unfold checkedTransfer MemoryLayout.checkRange
  split <;> rfl

/-- The transfer of a range comes with the check of the range. -/
lemma decide_checkedTransfer {α : Type} (start count : ℕ) (f : Transfer → Suspended α) :
    (Port.decide (mem.checkedTransfer start count) >>= f) =
      Port.decide (mem.layout.checkRange start count) >>= fun _ =>
        f (mem.layout.transfer start count) := by
  rw [checkedTransfer_eq]
  cases mem.layout.checkRange start count <;> rfl

lemma readAsync_eq (start count : ℕ) : mem.readAsync start count = mem.read start count := by
  unfold readAsync read physicalRead MemoryLayout.checkReadable
  simp only [decide_checkedTransfer, Transfer.readValuesAsync_eq]
  cases mem.layout.access.readable <;> rfl

lemma writeAsync_eq (start : ℕ) (values : List ℕ) :
    mem.writeAsync start values = mem.write start values := by
  unfold writeAsync write physicalWrite MemoryLayout.checkWritable MemoryLayout.checkValues
    MemoryLayout.maxValue
  simp only [decide_checkedTransfer, Transfer.writeValuesAsync_eq]
  cases mem.layout.access.writable with
  | false => rfl
  | true =>
    refine bind_congr fun _ => ?_
    cases values.find? fun v => Decidable.decide (valueMask mem.layout.width < v) <;> rfl

end Memory

/-- An asynchronous operation is the blocking one, suspended at its requests. -/
theorem DeviceOperation.performAsync_eq (op : DeviceOperation) : op.performAsync = op.perform := by
  cases op with
  | readWords t => exact t.readWordsAsync_eq
  | writeWords t words => exact t.writeWordsAsync_eq words
  | readValues t => exact t.readValuesAsync_eq
  | writeValues t values => exact t.writeValuesAsync_eq values
  | readRegister r => exact r.readAsync_eq
  | writeRegister r value => exact r.writeAsync_eq value
  | readFields r => exact congrArg (· >>= _) r.readAsync_eq
  | writeFields r args => exact r.writeFieldsAsync_eq args
  | readField f => exact f.readAsync_eq
  | readFieldValue f =>
    exact congrArg (fun read => Port.decide f.checkReadable >>= fun _ => read >>= _)
      f.register.physicalReadAsync_eq
  | writeField f value => exact f.register.writeFieldsAsync_eq _
  | readMember f α => exact f.readEnumAsync_eq α
  | writeMember f α a => exact f.register.writeFieldsAsync_eq _
  | readAll a => exact a.readAllAsync_eq
  | writeAll a values => exact a.writeAllAsync_eq values
  | readFieldsAll a => exact congrArg (· >>= _) a.readAllAsync_eq
  | readElements a => exact congrArg (· >>= _) a.readAllAsync_eq
  | writeElements a buffer => exact a.writeAllAsync_eq _
  | readMemory mem start count => exact mem.readAsync_eq start count
  | writeMemory mem start values => exact mem.writeAsync_eq start values
  | readEntry mem index => exact congrArg (· >>= _) (mem.readAsync_eq index 1)
  | writeEntry mem index value => exact mem.writeAsync_eq index [value]
  | readBuffer mem start count => exact congrArg (· >>= _) (mem.readAsync_eq start count)
  | writeBuffer mem start buffer => exact mem.writeAsync_eq start _
  | readBits mem start count =>
    exact (congrArg ((wordsToBits · mem.layout.width) <$> ·) (mem.readAsync_eq start count)).trans
      (map_eq_pure_bind _ _)
  | writeBits mem start bits =>
    change (if _ then mem.writeAsync start _ else _) = mem.writeBits start bits
    rw [mem.writeAsync_eq]
    rfl

end RegisterMap
