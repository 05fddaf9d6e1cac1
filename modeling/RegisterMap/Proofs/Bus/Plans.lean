import Mathlib
import RegisterMap.Proofs.Bus.Entries
import RegisterMap.Proofs.Bus.Refusals

/-!
# Accesses that follow a plan

Whether words travel in blocks or one at a time is up to the bus, and it may answer differently from
one transfer to the next.  What is accessed is not: word by word, a block is the same as the single
accesses of its words (`Call.singles`).  A plan lists the accesses of single words, and an operation
`Follows` it if its calls come down to the plan when they are all served and to the beginning of it
when one fails.

Reading a transfer follows the plan that accesses every word of every entry once, in ascending
order, and joins the words that the bus answers with (`follows_readValues`).  Writing follows the
same addresses with the words of the values (`follows_writeValues`).
-/

namespace RegisterMap

namespace Call

/-- The accesses of single words that a call comes down to. -/
def singles : Call → List Call
  | readBlock address width accessWidth length =>
    (List.range length).map fun i => read (address + i * entryBytes width) width accessWidth
  | writeBlock address width accessWidth data =>
    data.zipIdx.map fun p => write (address + p.2 * entryBytes width) width accessWidth p.1
  | c@(read ..) | c@(write ..) => [c]

/-- The words that an answer brings. -/
def words : (c : Call) → Except Fault c.Reply → List ℕ
  | read .., .ok word => [word]
  | readBlock .., .ok words => words
  | _, _ => []

end Call

namespace Bus

variable {σ α : Type} (bus : Bus σ)

/-- The words that some calls read, in order. -/
def words : σ → List Call → List ℕ
  | _, [] => []
  | s, c :: rest => c.words (bus.answer c s).1 ++ words (bus.answer c s).2 rest

/-- Some calls carry a plan out, with this outcome: either all of it, and `Q` relates the words that
were read to the value, or the beginning of it up to a call whose fault is the outcome. -/
def Carries (s : σ) (plan : List Call) (Q : List ℕ → α → Prop) (calls : List Call) :
    Except Fault α → Prop
  | .ok a => bus.Serves s calls ∧ calls.flatMap Call.singles = plan ∧ Q (bus.words s calls) a
  | .error e => bus.StopsAt s calls e ∧ calls.flatMap Call.singles <+: plan

variable {bus}

lemma words_append (s : σ) (calls calls' : List Call) :
    bus.words s (calls ++ calls') = bus.words s calls ++ bus.words (bus.after s calls) calls' := by
  induction calls generalizing s with
  | nil => rfl
  | cons c rest ih =>
    change c.words _ ++ bus.words _ (rest ++ calls') = c.words _ ++ bus.words _ rest ++ _
    rw [ih, List.append_assoc]
    rfl

/-- Calls that are served bring one word for every single read. -/
lemma length_words_of_serves {s : σ} {calls : List Call} (h : bus.Serves s calls) :
    (bus.words s calls).length = (calls.flatMap Call.singles).countP fun c => !c.isWrite := by
  induction calls generalizing s with
  | nil => rfl
  | cons c rest ih =>
    obtain ⟨hserved, hrest⟩ := h
    have hhead : (c.words (bus.answer c s).1).length = c.singles.countP fun c => !c.isWrite := by
      revert hserved
      cases (bus.answer c s).1 with
      | error e => exact nofun
      | ok reply =>
        intro hserved
        cases c with
        | read => rfl
        | write => rfl
        | readBlock address width accessWidth length =>
          have hlength : List.length reply = length := by
            by_contra hne
            exact absurd hserved (by simp [Call.fault?, Call.lengthFault?, hne])
          simpa [Call.words, Call.singles, Call.isWrite, List.countP_map, Function.comp_def]
            using hlength
        | writeBlock =>
          simp [Call.words, Call.singles, Call.isWrite, List.countP_map, Function.comp_def]
    change (c.words _ ++ bus.words _ rest).length = _
    rw [List.length_append, hhead, ih hrest, List.flatMap_cons, List.countP_append]

end Bus

namespace Blocking

variable {σ α β ι : Type} {bus : Bus σ}

/-- On every world the operation carries the plan out, and nothing else happens. -/
def Follows (bus : Bus σ) (x : Blocking σ α) (plan : List Call) (Q : List ℕ → α → Prop) : Prop :=
  ∀ w, ∃ calls, Made bus w (x.run bus w).2 calls ∧
    bus.Carries w.bus plan Q calls (x.run bus w).1

variable {x : Blocking σ α} {f : α → Blocking σ β} {a : α} {plan plan' : List Call}
  {Q Q' : List ℕ → α → Prop} {R : List ℕ → β → Prop}

lemma Follows.pure (h : Q [] a) : Follows bus (Pure.pure a) [] Q :=
  fun w => ⟨[], .refl w, trivial, rfl, h⟩

lemma Follows.mono (hx : Follows bus x plan Q) (h : ∀ words a, Q words a → Q' words a) :
    Follows bus x plan Q' := by
  intro w
  obtain ⟨calls, hmade, hend⟩ := hx w
  refine ⟨calls, hmade, ?_⟩
  revert hend
  cases (x.run bus w).1 with
  | ok a => exact fun hend => ⟨hend.1, hend.2.1, h _ _ hend.2.2⟩
  | error e => exact id

/-- The plan tells how many words are read. -/
lemma Follows.counted (hx : Follows bus x plan Q) : Follows bus x plan fun words a =>
    Q words a ∧ words.length = plan.countP fun c => !c.isWrite := by
  intro w
  obtain ⟨calls, hmade, hend⟩ := hx w
  refine ⟨calls, hmade, ?_⟩
  revert hend
  cases (x.run bus w).1 with
  | ok a =>
    rintro ⟨hserves, hplan, ha⟩
    exact ⟨hserves, hplan, ha, hplan ▸ Bus.length_words_of_serves hserves⟩
  | error e => exact id

/-- One plan after the other. -/
lemma Follows.bind (hx : Follows bus x plan Q)
    (hf : ∀ words a, Q words a → Follows bus (f a) plan' fun words' => R (words ++ words')) :
    Follows bus (x >>= f) (plan ++ plan') R := by
  intro w
  obtain ⟨calls, hmade, hend⟩ := hx w
  rw [run_bind]
  revert hmade hend
  rcases x.run bus w with ⟨e | a, w₁⟩ <;> intro hmade hend
  · exact ⟨calls, hmade, hend.1, hend.2.trans (List.prefix_append _ _)⟩
  · obtain ⟨hserves, hplan, ha⟩ := hend
    obtain ⟨calls', hmade', hend'⟩ := hf _ a ha w₁
    rw [hmade.state] at hend'
    refine ⟨calls ++ calls', hmade.trans hmade', ?_⟩
    revert hend'
    cases ((f a).run bus w₁).1 with
    | ok b =>
      rintro ⟨hserves', hplan', hb⟩
      refine ⟨Bus.serves_append.2 ⟨hserves, hserves'⟩, ?_, ?_⟩
      · rw [List.flatMap_append, hplan, hplan']
      · rw [Bus.words_append]
        exact hb
    | error e =>
      rintro ⟨hstops, hprefix⟩
      refine ⟨hstops.append hserves, ?_⟩
      rw [List.flatMap_append, hplan]
      exact (List.prefix_append_right_inj plan).2 hprefix

/-- What ends an operation and makes no call. -/
lemma Follows.bindPure (hx : Follows bus x plan Q) {g : α → β}
    (h : ∀ words a, Q words a → R words (g a)) :
    Follows bus (x >>= fun a => Pure.pure (g a)) plan R := by
  have hbind : Follows bus (x >>= fun a => Pure.pure (g a)) (plan ++ []) R :=
    hx.bind fun words a ha => .pure (by rw [List.append_nil]; exact h words a ha)
  rwa [List.append_nil] at hbind

/-- A check that passes makes no call. -/
lemma Follows.decideThen {outcome : Except Fault α} (h : outcome = .ok a)
    (hf : Follows bus (f a) plan R) : Follows bus (Port.decide outcome >>= f) plan R := by
  subst h
  exact hf

/-- What follows a question follows the plan for either answer. -/
lemma Follows.ofBlockReads {f : Bool → Blocking σ β}
    (h : ∀ offered, Follows bus (f offered) plan R) :
    Follows bus (Port.blockReads >>= f) plan R :=
  fun w => h (bus.blockReads w.bus) w

lemma Follows.ofBlockWrites {f : Bool → Blocking σ β}
    (h : ∀ offered, Follows bus (f offered) plan R) :
    Follows bus (Port.blockWrites >>= f) plan R :=
  fun w => h (bus.blockWrites w.bus) w

/-- Items that are read one after the other, each with the words that `g` lists. -/
lemma Follows.mapM {f : ι → Blocking σ α} {plan : ι → List Call} {g : α → List ℕ} {l : List ι}
    (h : ∀ i ∈ l, Follows bus (f i) (plan i) fun words a => words = g a) :
    Follows bus (l.mapM f) (l.flatMap plan) fun words as => words = as.flatMap g := by
  induction l with
  | nil => exact .pure rfl
  | cons i rest ih =>
    rw [List.mapM_cons, List.flatMap_cons]
    refine (h i List.mem_cons_self).bind fun words a ha => ?_
    refine (ih fun j hj => h j (List.mem_cons_of_mem i hj)).bindPure fun words' as has => ?_
    rw [ha, has, List.flatMap_cons]

lemma Follows.forM {f : ι → Blocking σ PUnit} {plan : ι → List Call} {l : List ι}
    (h : ∀ i ∈ l, Follows bus (f i) (plan i) fun _ _ => True) :
    Follows bus (l.forM f) (l.flatMap plan) fun _ _ => True := by
  induction l with
  | nil => exact .pure trivial
  | cons i rest ih =>
    exact (h i List.mem_cons_self).bind fun _ _ _ => ih fun j hj => h j (List.mem_cons_of_mem i hj)

/-! ## Operations that succeed -/

/-- Where the operation succeeds, its calls come down to the plan, and `P` holds of the value. -/
def Completes (bus : Bus σ) (x : Blocking σ α) (plan : List Call) (P : α → Prop) : Prop :=
  ∀ w a w', x.run bus w = (.ok a, w') →
    ∃ calls, Made bus w w' calls ∧ calls.flatMap Call.singles = plan ∧ P a

variable {P : α → Prop}

lemma Follows.completes (hx : Follows bus x plan Q) (h : ∀ words a, Q words a → P a) :
    Completes bus x plan P := by
  intro w a w' hrun
  obtain ⟨calls, hmade, hend⟩ := hx w
  rw [hrun] at hmade hend
  obtain ⟨-, hplan, ha⟩ := hend
  exact ⟨calls, hmade, hplan, h _ a ha⟩

/-- A check in front tells that it passed. -/
lemma Completes.decideThen {outcome : Except Fault β} {f : β → Blocking σ α}
    (h : ∀ b, outcome = .ok b → Completes bus (f b) plan P) :
    Completes bus (Port.decide outcome >>= f) plan P := by
  intro w a w' hrun
  obtain ⟨b, hb, hrest⟩ := run_decideThen_eq_ok hrun
  exact h b hb w a w' hrest

/-! ## Calls -/

lemma follows_call (c : Call) (hserved : ∀ reply, c.lengthFault? reply = none) :
    Follows bus (Port.call c) c.singles fun words reply => words = c.words (.ok reply) := by
  intro w
  refine ⟨[c], made_call c w, ?_⟩
  rw [run_call]
  dsimp only
  cases hanswer : (bus.answer c w.bus).1 with
  | ok reply =>
    refine ⟨⟨?_, trivial⟩, List.flatMap_singleton .., ?_⟩
    · rw [hanswer]
      exact hserved reply
    · change c.words (bus.answer c w.bus).1 ++ [] = _
      rw [hanswer, List.append_nil]
  | error e =>
    refine ⟨⟨[], c, rfl, trivial, ?_⟩, ?_⟩
    · change c.fault? (bus.answer c w.bus).1 = some e
      rw [hanswer]
      rfl
    · rw [List.flatMap_singleton]

/-- A block is read as its words are, if it has the right length. -/
lemma follows_readBlock (address width accessWidth length : ℕ) :
    Follows bus (do
      let words : List ℕ ← Port.call (.readBlock address width accessWidth length)
      if words.length = length then Pure.pure words
      else Port.fail (.lengthMismatch length words.length))
      (Call.readBlock address width accessWidth length).singles
      fun words words' => words = words' := by
  intro w
  set c : Call := .readBlock address width accessWidth length with hc
  have hmade : Made bus w (Blocking.run (Port.call c) bus w).2 [c] := made_call c w
  rw [run_bind]
  rw [run_call] at hmade ⊢
  cases hanswer : (bus.answer c w.bus).1 with
  | error e =>
    refine ⟨[c], hmade, ⟨[], c, rfl, trivial, ?_⟩, by rw [List.flatMap_singleton]⟩
    change c.fault? (bus.answer c w.bus).1 = some e
    rw [hanswer]
    rfl
  | ok words =>
    dsimp only
    by_cases hlength : List.length words = length
    · rw [if_pos hlength]
      refine ⟨[c], hmade, ⟨?_, trivial⟩, List.flatMap_singleton .., ?_⟩
      · rw [hanswer]
        exact if_pos hlength
      · change c.words (bus.answer c w.bus).1 ++ [] = _
        rw [hanswer, List.append_nil]
        rfl
    · rw [if_neg hlength]
      refine ⟨[c], hmade, ⟨[], c, rfl, trivial, ?_⟩, by rw [List.flatMap_singleton]⟩
      change c.fault? (bus.answer c w.bus).1 = _
      rw [hanswer]
      exact if_neg hlength

end Blocking

/-! ## Transfers -/

/-- A list of whole groups. -/
lemma length_groupsOf {α : Type} {n m : ℕ} (hpos : 0 < n) {xs : List α} (h : xs.length = m * n) :
    (groupsOf n xs).length = m := by
  induction m generalizing xs with
  | zero =>
    have hnil : xs = [] := List.length_eq_zero_iff.1 (h.trans (Nat.zero_mul n))
    rw [groupsOf, if_pos (Or.inr hnil), List.length_nil]
  | succ m ih =>
    rw [Nat.succ_mul] at h
    have hne : xs ≠ [] := List.ne_nil_of_length_pos (by omega)
    rw [groupsOf, if_neg (by simp [hne]; omega), List.length_cons,
      ih (by rw [List.length_drop]; omega)]

namespace Transfer

open Blocking

variable {σ : Type} {bus : Bus σ} (t : Transfer)

/-- The plan that reads every word of every entry. -/
def reads : List Call :=
  ((List.range t.entries).flatMap t.wordAddresses).map fun address =>
    .read address t.wordWidth t.accessWidth

/-- The plan that writes the words of the values to those of the entries. -/
def writes (values : List ℕ) : List Call :=
  (((List.range t.entries).flatMap t.wordAddresses).zip (values.flatMap t.entryWords)).map fun p =>
    .write p.1 t.wordWidth t.accessWidth p.2

/-- A word that is read at every address. -/
def readsAt (run : Transfer) : List Call :=
  run.addresses.map fun address => .read address run.width run.accessWidth

lemma follows_readWords : Follows bus t.readWords t.readsAt fun words words' => words = words' := by
  rw [readWords_eq]
  split
  · next hzero =>
    have hnone : t.readsAt = [] := by simp [readsAt, addresses, hzero]
    rw [hnone]
    exact .pure rfl
  · refine .ofBlockReads fun offered => ?_
    unfold readOffered readsAt addresses
    rw [List.map_map]
    split
    · next hblock =>
      have hstride := stride_of_isContiguous hblock
      have hplan : ((List.range t.entries).map
          ((fun address => Call.read address t.width t.accessWidth) ∘ t.entryAddress)) =
          (Call.readBlock t.address t.width t.accessWidth t.entries).singles := by
        refine List.map_congr_left fun i _ => ?_
        rw [Function.comp_apply, entryAddress, hstride]
      rw [hplan]
      exact follows_readBlock _ _ _ _
    · rw [List.map_eq_flatMap]
      refine (Follows.mapM (g := fun word => [word]) fun i _ => ?_).mono
        fun words words' hwords => ?_
      · exact follows_call (.read (t.entryAddress i) t.width t.accessWidth) fun _ => rfl
      · rw [hwords, List.flatMap_singleton']

lemma follows_writeWords {words : List ℕ} (hlength : words.length = t.entries) :
    Follows bus (t.writeWords words)
      ((t.addresses.zip words).map fun p => .write p.1 t.width t.accessWidth p.2)
      fun _ _ => True := by
  have hplan : ((t.addresses.zip words).map fun p => Call.write p.1 t.width t.accessWidth p.2) =
      words.zipIdx.map fun p => .write (t.entryAddress p.2) t.width t.accessWidth p.1 := by
    rw [addresses, ← hlength]
    refine List.ext_getElem (by simp) fun i _ _ => ?_
    simp
  rw [writeWords_eq, if_neg (not_not.2 hlength), hplan]
  split
  · next hempty =>
    rw [List.isEmpty_iff.1 hempty]
    exact .pure trivial
  · refine .ofBlockWrites fun offered => ?_
    unfold writeOffered
    split
    · next hblock =>
      have hstride := stride_of_isContiguous hblock
      simp only [entryAddress, hstride]
      exact (follows_call (.writeBlock t.address t.width t.accessWidth words) fun _ => rfl).mono
        fun _ _ _ => trivial
    · rw [List.map_eq_flatMap]
      exact .forM fun p _ => (follows_call _ fun _ => rfl).mono fun _ _ _ => trivial

variable {t}

lemma accessWidth_of_mem_wordTransfers {run : Transfer} (h : run ∈ t.wordTransfers) :
    run.accessWidth = t.accessWidth := by
  unfold wordTransfers at h
  split at h
  · rw [List.mem_singleton.1 h]
  · split at h
    · rw [List.mem_singleton.1 h]
      rfl
    · obtain ⟨i, -, rfl⟩ := List.mem_map.1 h
      rfl

/-- The runs of a transfer read the words of all entries. -/
lemma flatMap_readsAt : t.wordTransfers.flatMap readsAt = t.reads := by
  calc t.wordTransfers.flatMap readsAt
      = t.wordTransfers.flatMap fun run =>
          run.addresses.map fun address => .read address t.wordWidth t.accessWidth := by
        refine List.flatMap_congr fun run hrun => ?_
        rw [readsAt, width_of_mem_wordTransfers hrun, accessWidth_of_mem_wordTransfers hrun]
    _ = t.reads := by rw [← List.map_flatMap, flatMap_addresses, reads]

lemma countP_reads : (t.reads.countP fun c => !c.isWrite) = t.entries * t.wordsPerEntry := by
  simp [reads, Call.isWrite, List.countP_map, Function.comp_def, List.length_flatMap]

/-- Reading a transfer reads every word of it once and joins the words. -/
theorem follows_readValues (hwidths : t.checkWidths = .ok ()) :
    Follows bus t.readValues t.reads fun words values => values = t.joinEntries words := by
  unfold readValues
  refine .decideThen hwidths ?_
  rw [← flatMap_readsAt]
  refine Follows.bindPure (Q := fun words runs => words = runs.flatten) ?_ fun words runs h => ?_
  · refine (Follows.mapM (g := id) fun run _ => follows_readWords run).mono fun words runs h => ?_
    rw [h, List.flatMap_id]
  · rw [h]

/-- One value for every entry. -/
lemma length_joinEntries (hpos : 0 < t.wordsPerEntry) {words : List ℕ}
    (h : words.length = t.entries * t.wordsPerEntry) :
    (t.joinEntries words).length = t.entries := by
  unfold joinEntries
  split
  · next hone => rw [h, hone, Nat.mul_one]
  · rw [List.length_map]
    exact length_groupsOf hpos h

lemma follows_writeRuns {runs : List Transfer} {words : List ℕ} {width accessWidth : ℕ}
    (hruns : ∀ run ∈ runs, run.width = width ∧ run.accessWidth = accessWidth)
    (hlength : words.length = (runs.flatMap addresses).length) :
    Follows bus (writeRuns runs words)
      (((runs.flatMap addresses).zip words).map fun p => .write p.1 width accessWidth p.2)
      fun _ _ => True := by
  induction runs generalizing words with
  | nil => exact .pure trivial
  | cons run rest ih =>
    rw [List.flatMap_cons, List.length_append, length_addresses] at hlength
    obtain ⟨rfl, rfl⟩ := hruns run List.mem_cons_self
    have hhead : (words.take run.entries).length = run.entries := by
      rw [List.length_take]
      omega
    have hrest : (words.drop run.entries).length = (rest.flatMap addresses).length := by
      rw [List.length_drop]
      omega
    have hsplit : ((run :: rest).flatMap addresses).zip words =
        run.addresses.zip (words.take run.entries) ++
          (rest.flatMap addresses).zip (words.drop run.entries) := by
      conv_lhs => rw [← List.take_append_drop run.entries words]
      rw [List.flatMap_cons, List.zip_append (by rw [length_addresses, hhead])]
    rw [hsplit, List.map_append]
    exact (follows_writeWords run hhead).bind fun _ _ _ =>
      ih (fun r hr => hruns r (List.mem_cons_of_mem _ hr)) hrest

/-- Writing a transfer writes every word of the values once. -/
theorem follows_writeValues {values : List ℕ} (hwidths : t.checkWidths = .ok ())
    (hlength : values.length = t.entries)
    (hfit : t.wordsPerEntry = 1 → ∀ v ∈ values, v ≤ wordMask maxWordWidth) :
    Follows bus (t.writeValues values) (t.writes values) fun _ _ => True := by
  unfold writeValues
  refine .decideThen hwidths (.decideThen (splitEntries_eq t hlength hfit) ?_)
  rw [writes, ← flatMap_addresses]
  exact follows_writeRuns (fun run hrun => ⟨width_of_mem_wordTransfers hrun,
    accessWidth_of_mem_wordTransfers hrun⟩) (length_flatMap_entryWords hlength)

/-! ## Transfers that succeed -/

/-- The number of values that reading gives: one for each entry, unless accesses have no width. -/
def readCount (t : Transfer) : ℕ := if t.wordsPerEntry = 0 then 0 else t.entries

/-- Where reading succeeds, the number of values depends on the transfer alone. -/
lemma completes_readValues :
    Completes bus t.readValues t.reads fun values => values.length = t.readCount := by
  have hcounted : ∀ words values, (values = t.joinEntries words ∧
      words.length = t.reads.countP fun c => !c.isWrite) → values.length = t.readCount := by
    rintro words values ⟨rfl, hlength⟩
    rw [countP_reads] at hlength
    unfold readCount
    split
    · next hzero =>
      rw [joinEntries, if_neg (by omega), hzero, groupsOf, if_pos (Or.inl rfl), List.map_nil,
        List.length_nil]
    · next hpos => exact length_joinEntries (Nat.pos_of_ne_zero hpos) hlength
  intro w values w' hrun
  obtain ⟨_, hwidths, -⟩ := run_decideThen_eq_ok hrun
  exact (follows_readValues hwidths).counted.completes hcounted w values w' hrun

/-- Values that are split are one for each entry, and words where an entry is one word. -/
lemma fits_of_splitEntries {values words : List ℕ} (h : t.splitEntries values = .ok words) :
    values.length = t.entries ∧ (t.wordsPerEntry = 1 → ∀ v ∈ values, v ≤ wordMask maxWordWidth) := by
  unfold splitEntries at h
  split at h
  · next hlength =>
    obtain ⟨pieces, hpieces, -⟩ := map_eq_ok.1 h
    have hfits := forall₂_of_mapM_eq_ok
      (R := fun v _ => t.wordsPerEntry = 1 → v ≤ wordMask maxWordWidth) (fun v piece hpiece hone => by
        rw [splitEntry, if_pos hone, ite_error_eq_ok] at hpiece
        exact Nat.not_lt.1 hpiece.1) hpieces
    refine ⟨hlength, fun hone v hv => ?_⟩
    obtain ⟨-, -, hfit⟩ := exists_of_forall₂ hfits hv
    exact hfit hone
  · cases h

/-- Where writing succeeds, every word of the values was written once. -/
lemma completes_writeValues (values : List ℕ) :
    Completes bus (t.writeValues values) (t.writes values) fun _ => True := by
  intro w u w' hrun
  obtain ⟨_, hwidths, hrest⟩ := run_decideThen_eq_ok hrun
  obtain ⟨words, hsplit, -⟩ := run_decideThen_eq_ok hrest
  obtain ⟨hlength, hfit⟩ := fits_of_splitEntries hsplit
  exact (follows_writeValues hwidths hlength hfit).completes (fun _ _ _ => trivial) w u w' hrun

end Transfer

end RegisterMap
