import Mathlib
import RegisterMap.Proofs.Bus.Cells
import RegisterMap.Proofs.Results

/-!
# Runs up to the first call that fails

A bus may refuse any call, and it may answer a block read with the wrong number of words.  Either is
the fault of the whole operation, which makes no further call.  `Prompt` says so of an operation: it
makes calls of one direction, and it succeeds if all of them are served and otherwise ends with the
fault of its last call.

The moving of words is prompt, and so is the writing of runs as long as there are as many words as
the runs have entries.  Splitting values makes exactly that many
(`Transfer.length_of_splitEntries`), so the check of the length before each run never fails between
two writes.
-/

namespace RegisterMap

/-! ## Calls that are served -/

namespace Call

/-- The fault of a block that has not the length asked for. -/
def lengthFault? : (c : Call) → c.Reply → Option Fault
  | readBlock _ _ _ length, words =>
    if List.length words = length then none else some (.lengthMismatch length (List.length words))
  | read .., _ | write .., _ | writeBlock .., _ => none

/-- The fault that an answer amounts to. -/
def fault? (c : Call) : Except Fault c.Reply → Option Fault
  | .error e => some e
  | .ok reply => c.lengthFault? reply

/-- A write fails only where the bus refuses it. -/
lemma answer_eq_of_fault {c : Call} (hwrite : c.isWrite = true) {answer : Except Fault c.Reply}
    {e : Fault} (h : c.fault? answer = some e) : answer = .error e := by
  cases answer with
  | error e' =>
    cases h
    rfl
  | ok reply =>
    cases c with
    | read => cases hwrite
    | readBlock => cases hwrite
    | write => cases h
    | writeBlock => cases h

end Call

namespace Bus

variable {σ : Type} (bus : Bus σ)

/-- The state after some calls, however they are answered. -/
def after (s : σ) (calls : List Call) : σ := calls.foldl (fun s c => (bus.answer c s).2) s

/-- One call after the other is carried out, and the blocks have the lengths asked for. -/
def Serves : σ → List Call → Prop
  | _, [] => True
  | s, c :: rest => c.fault? (bus.answer c s).1 = none ∧ Serves (bus.answer c s).2 rest

/-- The last call fails, and all calls before it are served. -/
def StopsAt (s : σ) (calls : List Call) (e : Fault) : Prop :=
  ∃ init c, calls = init ++ [c] ∧ bus.Serves s init ∧
    c.fault? (bus.answer c (bus.after s init)).1 = some e

/-- Single reads are answered with words of at most `maxWordWidth` bits, all that a bus can move. -/
def AnswersWords : Prop :=
  ∀ (address width accessWidth : ℕ) (s : σ) (word : ℕ),
    (bus.answer (.read address width accessWidth) s).1 = .ok word → word ≤ wordMask maxWordWidth

variable {bus} {s : σ} {calls calls' : List Call} {e : Fault}

lemma after_append : bus.after s (calls ++ calls') = bus.after (bus.after s calls) calls' :=
  List.foldl_append

lemma serves_append : bus.Serves s (calls ++ calls') ↔
    bus.Serves s calls ∧ bus.Serves (bus.after s calls) calls' := by
  induction calls generalizing s with
  | nil => simp [Serves, after]
  | cons c rest ih =>
    show _ ∧ bus.Serves _ (rest ++ calls') ↔ _
    rw [ih, ← and_assoc]
    rfl

/-- Calls that are served come before the one that fails. -/
lemma StopsAt.append (h : bus.Serves s calls) (h' : bus.StopsAt (bus.after s calls) calls' e) :
    bus.StopsAt s (calls ++ calls') e := by
  obtain ⟨init, c, rfl, hserves, hfault⟩ := h'
  refine ⟨calls ++ init, c, (List.append_assoc _ _ _).symm, serves_append.2 ⟨h, hserves⟩, ?_⟩
  rw [after_append]
  exact hfault

end Bus

/-- All that happened from one world to the other are these calls. -/
structure Made {σ : Type} (bus : Bus σ) (w w' : World σ) (calls : List Call) : Prop where
  trace : w'.trace = w.trace ++ calls
  state : w'.bus = bus.after w.bus calls
  locks : w'.locks = w.locks

namespace Made

variable {σ : Type} {bus : Bus σ} {w w₁ w₂ : World σ} {calls calls' : List Call}

lemma refl (w : World σ) : Made bus w w [] := ⟨(List.append_nil _).symm, rfl, rfl⟩

lemma trans (h : Made bus w w₁ calls) (h' : Made bus w₁ w₂ calls') :
    Made bus w w₂ (calls ++ calls') where
  trace := by rw [h'.trace, h.trace, List.append_assoc]
  state := by rw [h'.state, h.state, Bus.after_append]
  locks := h'.locks.trans h.locks

end Made

/-! ## Prompt operations -/

namespace Blocking

variable {σ α β : Type} {bus : Bus σ} {writing : Bool}

/-- The operation succeeds, with a value of which `P` holds, if its calls are all served, and ends
with the fault of its last call otherwise.  Its calls are all writes or all reads. -/
def Prompt (bus : Bus σ) (writing : Bool) (x : Blocking σ α) (P : α → Prop) : Prop :=
  ∀ w, ∃ calls, Made bus w (x.run bus w).2 calls ∧ (∀ c ∈ calls, c.isWrite = writing) ∧
    match (x.run bus w).1 with
    | .ok a => bus.Serves w.bus calls ∧ P a
    | .error e => bus.StopsAt w.bus calls e

variable {x : Blocking σ α} {f : α → Blocking σ β} {P Q : α → Prop} {R : β → Prop} {a : α}

lemma Prompt.pure (h : P a) : Prompt bus writing (Pure.pure a) P :=
  fun w => ⟨[], .refl w, by simp, trivial, h⟩

lemma Prompt.mono (hx : Prompt bus writing x P) (h : ∀ a, P a → Q a) : Prompt bus writing x Q := by
  intro w
  obtain ⟨calls, hmade, hkind, hend⟩ := hx w
  refine ⟨calls, hmade, hkind, ?_⟩
  revert hend
  cases (x.run bus w).1 with
  | ok a => exact And.imp_right (h a)
  | error e => exact id

lemma Prompt.bind (hx : Prompt bus writing x P) (hf : ∀ a, P a → Prompt bus writing (f a) R) :
    Prompt bus writing (x >>= f) R := by
  intro w
  obtain ⟨calls, hmade, hkind, hend⟩ := hx w
  rw [run_bind]
  revert hmade hend
  rcases x.run bus w with ⟨e | a, w₁⟩ <;> intro hmade hend
  · exact ⟨calls, hmade, hkind, hend⟩
  · obtain ⟨hserves, ha⟩ := hend
    obtain ⟨calls', hmade', hkind', hend'⟩ := hf a ha w₁
    rw [hmade.state] at hend'
    refine ⟨calls ++ calls', hmade.trans hmade', ?_, ?_⟩
    · exact fun c hc => (List.mem_append.1 hc).elim (hkind c) (hkind' c)
    · revert hend'
      cases ((f a).run bus w₁).1 with
      | ok b => exact And.imp_left fun h => Bus.serves_append.2 ⟨hserves, h⟩
      | error e => exact fun h => h.append hserves

/-- What follows a question has to be prompt for either answer. -/
lemma Prompt.ofBlockReads {f : Bool → Blocking σ β}
    (h : ∀ offered, Prompt bus writing (f offered) R) :
    Prompt bus writing (Port.blockReads >>= f) R :=
  fun w => h (bus.blockReads w.bus) w

lemma Prompt.ofBlockWrites {f : Bool → Blocking σ β}
    (h : ∀ offered, Prompt bus writing (f offered) R) :
    Prompt bus writing (Port.blockWrites >>= f) R :=
  fun w => h (bus.blockWrites w.bus) w

lemma keptBySteps_prompt :
    KeptBySteps fun α (x : Blocking σ α) => Prompt bus writing x fun _ => True :=
  ⟨fun _ => .pure trivial, fun hx hf => .bind hx fun a _ => hf a⟩

lemma Prompt.mapM {ι : Type} {f : ι → Blocking σ α} {l : List ι}
    (h : ∀ i, Prompt bus writing (f i) fun _ => True) :
    Prompt bus writing (l.mapM f) fun _ => True :=
  keptBySteps_prompt.mapM fun i _ => h i

lemma Prompt.forM {ι : Type} {f : ι → Blocking σ PUnit} {l : List ι}
    (h : ∀ i, Prompt bus writing (f i) fun _ => True) :
    Prompt bus writing (l.forM f) fun _ => True :=
  keptBySteps_prompt.forM fun i _ => h i

/-! ## Calls -/

lemma run_call (c : Call) (w : World σ) : Blocking.run (Port.call c) bus w =
    ((bus.answer c w.bus).1, ⟨(bus.answer c w.bus).2, w.locks, w.trace ++ [c]⟩) := by
  show Blocking.run (Port.decide (bus.answer c w.bus).1) bus _ = _
  cases (bus.answer c w.bus).1 <;> rfl

lemma made_call (c : Call) (w : World σ) :
    Made bus w (Blocking.run (Port.call c) bus w).2 [c] := by
  rw [run_call]
  exact ⟨rfl, rfl, rfl⟩

/-- A call other than a block read is served when it is carried out. -/
lemma prompt_call (c : Call) (hserved : ∀ reply, c.lengthFault? reply = none) :
    Prompt bus c.isWrite (Port.call c) fun reply => ∃ s, (bus.answer c s).1 = .ok reply := by
  intro w
  refine ⟨[c], made_call c w, by simp, ?_⟩
  rw [run_call]
  dsimp only
  cases hanswer : (bus.answer c w.bus).1 with
  | ok reply =>
    refine ⟨⟨?_, trivial⟩, w.bus, hanswer⟩
    rw [hanswer]
    exact hserved reply
  | error e =>
    refine ⟨[], c, rfl, trivial, ?_⟩
    show c.fault? (bus.answer c w.bus).1 = some e
    rw [hanswer]
    rfl

/-- A block of the wrong length is refused. -/
lemma prompt_readBlock (address width accessWidth length : ℕ) :
    Prompt bus false (do
      let words : List ℕ ← Port.call (.readBlock address width accessWidth length)
      if words.length = length then Pure.pure words
      else Port.fail (.lengthMismatch length words.length)) fun _ => True := by
  intro w
  set c : Call := .readBlock address width accessWidth length with hc
  have hmade : Made bus w (Blocking.run (Port.call c) bus w).2 [c] := made_call c w
  rw [run_bind]
  rw [run_call] at hmade ⊢
  cases hanswer : (bus.answer c w.bus).1 with
  | error e =>
    refine ⟨[c], hmade, by simp [hc, Call.isWrite], [], c, rfl, trivial, ?_⟩
    show c.fault? (bus.answer c w.bus).1 = some e
    rw [hanswer]
    rfl
  | ok words =>
    dsimp only
    by_cases hlength : List.length words = length
    · rw [if_pos hlength]
      refine ⟨[c], hmade, by simp [hc, Call.isWrite], ⟨?_, trivial⟩, trivial⟩
      rw [hanswer]
      exact if_pos hlength
    · rw [if_neg hlength]
      refine ⟨[c], hmade, by simp [hc, Call.isWrite], [], c, rfl, trivial, ?_⟩
      show c.fault? (bus.answer c w.bus).1 = _
      rw [hanswer]
      exact if_neg hlength

end Blocking

/-! ## Transfers -/

namespace Transfer

open Blocking

variable {σ : Type} {bus : Bus σ}

lemma prompt_readWords (t : Transfer) : Prompt bus false t.readWords fun _ => True := by
  rw [readWords_eq]
  split
  · exact .pure trivial
  · refine .ofBlockReads fun offered => ?_
    unfold readOffered
    split
    · exact prompt_readBlock _ _ _ _
    · exact .mapM fun i => (prompt_call _ fun _ => rfl).mono fun _ _ => trivial

lemma prompt_writeWords (t : Transfer) {words : List ℕ} (hlength : words.length = t.entries) :
    Prompt bus true (t.writeWords words) fun _ => True := by
  rw [writeWords_eq, if_neg (not_not.2 hlength)]
  split
  · exact .pure trivial
  · refine .ofBlockWrites fun offered => ?_
    unfold writeOffered
    split
    · exact (prompt_call _ fun _ => rfl).mono fun _ _ => trivial
    · exact .forM fun p => (prompt_call _ fun _ => rfl).mono fun _ _ => trivial

lemma prompt_writeRuns {runs : List Transfer} {words : List ℕ}
    (hlength : words.length = (runs.flatMap addresses).length) :
    Prompt bus true (writeRuns runs words) fun _ => True := by
  induction runs generalizing words with
  | nil => exact .pure trivial
  | cons run rest ih =>
    simp only [List.flatMap_cons, List.length_append, length_addresses] at hlength
    refine .bind (prompt_writeWords run ?_) fun _ _ => ih ?_
    · rw [List.length_take]
      omega
    · rw [List.length_drop]
      omega

lemma length_of_splitEntry {t : Transfer} {value : ℕ} {words : List ℕ}
    (h : t.splitEntry value = .ok words) : words.length = t.wordsPerEntry := by
  unfold splitEntry at h
  split at h
  · next hone =>
    split at h
    · cases h
    · rw [hone, ← Except.ok.inj h, List.length_singleton]
  · next hmany =>
    have hlt : t.accessWidth < t.width := by
      by_contra hle
      exact hmany (if_neg hle)
    rw [← Except.ok.inj h, length_splitWords, wordsPerEntry, if_pos hlt]

/-- The words of all values are as many as the runs have entries. -/
theorem length_of_splitEntries {t : Transfer} {values words : List ℕ}
    (h : t.splitEntries values = .ok words) :
    words.length = (t.wordTransfers.flatMap addresses).length := by
  unfold splitEntries at h
  split at h
  · next hcount =>
    obtain ⟨pieces, hpieces, rfl⟩ := map_eq_ok.1 h
    have hlengths := forall₂_of_mapM_eq_ok (R := fun _ piece => piece.length = t.wordsPerEntry)
      (fun _ _ => length_of_splitEntry) hpieces
    have hsum : pieces.flatten.length = values.length * t.wordsPerEntry := by
      clear hpieces hcount h
      induction hlengths with
      | nil => simp
      | cons hpiece _ ih =>
        rw [List.flatten_cons, List.length_append, hpiece, ih, List.length_cons]
        ring
    rw [hsum, hcount, flatMap_addresses]
    simp [List.length_flatMap]
  · cases h

end Transfer

end RegisterMap
