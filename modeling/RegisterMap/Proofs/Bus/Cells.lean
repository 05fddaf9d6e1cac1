import Mathlib
import RegisterMap.Proofs.Bits.Words
import RegisterMap.Proofs.Bus.Contents
import RegisterMap.Proofs.Results

/-!
# Where the words of a transfer lie

A transfer moves every entry as words of one width, and the runs into which it is cut list the
addresses of these words entry by entry, the words of an entry in order (`flatMap_addresses`).  A
single run of all words and one run an entry differ only in how many block accesses they take.

From this the effect on a simulated bus follows for all cases at once: reading sees the words at
these addresses (`yields_readValues`), and writing stores the words of the values there, the last
entry last (`yields_writeValues`).
-/

namespace RegisterMap

/-! ## Lists cut into pieces -/

lemma range_mul_map {α : Type} (m n : ℕ) (f : ℕ → α) :
    (List.range (m * n)).map f =
      (List.range m).flatMap fun i => (List.range n).map fun k => f (i * n + k) := by
  induction m with
  | zero => simp
  | succ m ih =>
    rw [Nat.succ_mul, List.range_add, List.map_append, ih, List.range_succ, List.flatMap_append]
    simp [Function.comp_def]

lemma zip_flatMap {α β γ δ : Type} {f : α → List γ} {g : β → List δ} {n : ℕ} {l : List α}
    {l' : List β} (hlength : l.length = l'.length) (hf : ∀ a, (f a).length = n)
    (hg : ∀ b ∈ l', (g b).length = n) :
    (l.flatMap f).zip (l'.flatMap g) = (l.zip l').flatMap fun p => (f p.1).zip (g p.2) := by
  induction l generalizing l' with
  | nil => simp
  | cons a rest ih =>
    cases l' with
    | nil => simp at hlength
    | cons b rest' =>
      have hhead : (f a).length = (g b).length := by rw [hf, hg b List.mem_cons_self]
      rw [List.flatMap_cons, List.flatMap_cons, List.zip_append hhead, List.zip_cons_cons,
        List.flatMap_cons, ih (by simpa using hlength) fun b hb => hg b (List.mem_cons_of_mem _ hb)]

/-- Pieces of one size are recovered from their concatenation. -/
lemma groupsOf_flatten {α : Type} {n : ℕ} (hpos : 0 < n) {pieces : List (List α)}
    (h : ∀ piece ∈ pieces, piece.length = n) : groupsOf n pieces.flatten = pieces := by
  induction pieces with
  | nil =>
    rw [groupsOf]
    simp
  | cons piece rest ih =>
    have hpiece : piece.length = n := h piece List.mem_cons_self
    have hne : piece ≠ [] := List.ne_nil_of_length_pos (by omega)
    rw [groupsOf, if_neg (by simp [hne]; omega), List.flatten_cons, ← hpiece,
      List.take_left, List.drop_left, hpiece, ih fun p hp => h p (List.mem_cons_of_mem _ hp)]

namespace Transfer

/-! ## Block and single accesses -/

section Offers

variable {m : Type → Type} [Port m]

/-- What reads the entries as words once it is known whether block reads are offered. -/
def readOffered (t : Transfer) (offered : Bool) : m (List ℕ) :=
  if t.isContiguous && offered then do
    let words : List ℕ ← Port.call (.readBlock t.address t.width t.accessWidth t.entries)
    if words.length = t.entries then return words
    else Port.fail (.lengthMismatch t.entries words.length)
  else
    (List.range t.entries).mapM fun i =>
      Port.call (.read (t.entryAddress i) t.width t.accessWidth)

/-- What writes the words once it is known whether block writes are offered. -/
def writeOffered (t : Transfer) (words : List ℕ) (offered : Bool) : m Unit :=
  if t.isContiguous && offered then
    Port.call (.writeBlock t.address t.width t.accessWidth words)
  else
    words.zipIdx.forM fun p =>
      Port.call (.write (t.entryAddress p.2) t.width t.accessWidth p.1)

lemma readWords_eq (t : Transfer) : (t.readWords : m (List ℕ)) =
    if t.entries = 0 then pure [] else Port.blockReads >>= t.readOffered := rfl

lemma writeWords_eq (t : Transfer) (words : List ℕ) : (t.writeWords words : m Unit) =
    if words.length ≠ t.entries then Port.fail (.lengthMismatch t.entries words.length)
    else if words.isEmpty then pure () else Port.blockWrites >>= t.writeOffered words := rfl

end Offers

lemma checkWidths_of_le {t : Transfer} (hwidth : t.width ≤ maxValueWidth)
    (haccess : t.accessWidth ≤ maxWordWidth) : t.checkWidths = .ok () :=
  (if_neg (Nat.not_lt.2 hwidth)).trans (if_neg (Nat.not_lt.2 haccess))

/-! ## Addresses -/

variable (t : Transfer)

/-- The addresses of the entries, each taken as one word. -/
def addresses : List ℕ := (List.range t.entries).map t.entryAddress

/-- The width of the words that move the entries. -/
def wordWidth : ℕ := if t.wordsPerEntry = 1 then t.width else t.accessWidth

/-- The address of a word of an entry. -/
def wordAddress (i k : ℕ) : ℕ := t.entryAddress i + k * entryBytes t.wordWidth

/-- The addresses of the words of an entry. -/
def wordAddresses (i : ℕ) : List ℕ := (List.range t.wordsPerEntry).map (t.wordAddress i)

@[simp] lemma length_addresses : t.addresses.length = t.entries := by simp [addresses]

@[simp] lemma length_wordAddresses (i : ℕ) : (t.wordAddresses i).length = t.wordsPerEntry := by
  simp [wordAddresses]

variable {t}

/-- All runs move words of one width. -/
lemma width_of_mem_wordTransfers {run : Transfer} (h : run ∈ t.wordTransfers) :
    run.width = t.wordWidth := by
  unfold wordTransfers at h
  unfold wordWidth
  by_cases hone : t.wordsPerEntry = 1
  · rw [if_pos hone] at h ⊢
    rw [List.mem_singleton.1 h]
  · rw [if_neg hone] at h ⊢
    split at h
    · rw [List.mem_singleton.1 h]
      rfl
    · obtain ⟨i, -, rfl⟩ := List.mem_map.1 h
      rfl

/-- The runs of a transfer list the words of every entry in order. -/
theorem flatMap_addresses :
    t.wordTransfers.flatMap addresses = (List.range t.entries).flatMap t.wordAddresses := by
  unfold wordTransfers
  by_cases hone : t.wordsPerEntry = 1
  · have hwords : t.wordAddresses = fun i => [t.entryAddress i] := by
      funext i
      simp [wordAddresses, wordAddress, hone]
    simp [hone, hwords, addresses, List.map_eq_flatMap]
  · rw [if_neg hone]
    split
    · next hstride =>
      -- one run: entry `i` begins `i * t.wordsPerEntry` words after the first one
      have haddress : ∀ i k, t.address + (i * t.wordsPerEntry + k) * entryBytes t.accessWidth =
          t.wordAddress i k := by
        intro i k
        rw [wordAddress, wordWidth, if_neg hone, entryAddress, hstride]
        ring
      simp only [List.flatMap_cons, List.flatMap_nil, List.append_nil, addresses, wordRun,
        contiguous]
      rw [range_mul_map]
      simp only [entryAddress, haddress]
      rfl
    · simp only [List.flatMap_map]
      congr 1
      funext i
      simp only [wordAddresses, addresses, wordRun, contiguous]
      congr 1
      funext k
      rw [wordAddress, wordWidth, if_neg hone, entryAddress]

/-! ## Reading -/

section Reading

open Blocking

/-- The words of an entry in some contents. -/
def wordsIn (t : Transfer) (c : Contents) (i : ℕ) : List ℕ :=
  (t.wordAddresses i).map fun address => c.seen address &&& wordMask t.wordWidth

/-- The value of an entry that is read as these words. -/
def joinEntry (t : Transfer) (words : List ℕ) : ℕ :=
  if t.wordsPerEntry = 1 then words.headD 0 else joinWords t.accessWidth words

/-- Entries that are moved as a block follow one another closely. -/
lemma stride_of_isContiguous {t : Transfer} {offered : Bool}
    (h : (t.isContiguous && offered) = true) : t.stride = entryBytes t.width := by
  simpa [isContiguous] using (Bool.and_eq_true_iff.1 h).1

/-- Whatever is said about block reads, the words at the addresses of the entries are read. -/
lemma yields_readOffered (t : Transfer) (offered : Bool) (c : Contents) :
    Yields (t.readOffered offered) c
      (t.addresses.map fun address => c.seen address &&& wordMask t.width) c := by
  unfold readOffered addresses
  rw [List.map_map]
  by_cases hblock : (t.isContiguous && offered) = true
  · rw [if_pos hblock]
    have hstride := stride_of_isContiguous hblock
    refine Yields.bind (yields_readBlock _ _ _ _ _) ?_
    simp only [List.length_map, List.length_range, if_true]
    simp only [Function.comp_def, entryAddress, hstride]
    exact .pure _ _
  · rw [if_neg hblock]
    exact .mapM fun i _ => yields_read _ _ _ _

lemma yields_readWords (t : Transfer) (c : Contents) :
    Yields t.readWords c (t.addresses.map fun address => c.seen address &&& wordMask t.width)
      c := by
  rw [readWords_eq]
  by_cases hzero : t.entries = 0
  · simp only [hzero, if_true, addresses, List.range_zero, List.map_nil]
    exact .pure _ _
  · rw [if_neg hzero]
    exact Yields.ofBlockReads fun offered => yields_readOffered t offered c

lemma joinEntries_flatMap (t : Transfer) (hpos : 0 < t.wordsPerEntry) {m : ℕ}
    {words : ℕ → List ℕ} (h : ∀ i, (words i).length = t.wordsPerEntry) :
    t.joinEntries ((List.range m).flatMap words) =
      (List.range m).map fun i => t.joinEntry (words i) := by
  unfold joinEntries joinEntry
  by_cases hone : t.wordsPerEntry = 1
  · simp only [hone, if_true]
    rw [List.map_eq_flatMap]
    congr 1
    funext i
    obtain ⟨word, hword⟩ := List.length_eq_one_iff.1 ((h i).trans hone)
    simp [hword]
  · have hgroups : groupsOf t.wordsPerEntry ((List.range m).flatMap words) =
        (List.range m).map words := by
      rw [List.flatMap_def]
      refine groupsOf_flatten hpos fun piece hpiece => ?_
      obtain ⟨i, -, rfl⟩ := List.mem_map.1 hpiece
      exact h i
    simp only [hone, if_false]
    rw [hgroups, List.map_map]
    rfl

/-- Reading gives the value of every entry from the words at its addresses. -/
theorem yields_readValues (t : Transfer) (c : Contents) (hwidths : t.checkWidths = .ok ())
    (hpos : 0 < t.wordsPerEntry) :
    Yields t.readValues c ((List.range t.entries).map fun i => t.joinEntry (t.wordsIn c i)) c := by
  have hwords : (t.wordTransfers.map fun run =>
      run.addresses.map fun address => c.seen address &&& wordMask run.width).flatten =
      (List.range t.entries).flatMap (t.wordsIn c) := by
    calc _ = (t.wordTransfers.map fun run =>
          run.addresses.map fun address => c.seen address &&& wordMask t.wordWidth).flatten := by
          congr 1
          refine List.map_congr_left fun run hrun => ?_
          rw [width_of_mem_wordTransfers hrun]
      _ = (t.wordTransfers.flatMap addresses).map fun address =>
          c.seen address &&& wordMask t.wordWidth := by
          rw [List.map_flatMap, List.flatMap_def]
      _ = (List.range t.entries).flatMap (t.wordsIn c) := by
          rw [flatMap_addresses, List.map_flatMap]
          rfl
  unfold readValues
  refine Yields.bind (.decide hwidths c) ?_
  refine Yields.bind (Yields.mapM fun run _ => yields_readWords run c) ?_
  rw [hwords, joinEntries_flatMap t hpos fun i => by simp [wordsIn]]
  exact .pure _ _

end Reading

/-! ## Writing -/

section Writing

open Blocking

/-- The words of a value that fits an entry. -/
def entryWords (t : Transfer) (value : ℕ) : List ℕ :=
  if t.wordsPerEntry = 1 then [value] else splitWords value t.width t.accessWidth

@[simp] lemma length_entryWords (t : Transfer) (value : ℕ) :
    (t.entryWords value).length = t.wordsPerEntry := by
  unfold entryWords
  by_cases hone : t.wordsPerEntry = 1
  · simp [hone]
  · have hlt : t.accessWidth < t.width := by
      by_contra hle
      exact hone (by simp [wordsPerEntry, hle])
    rw [if_neg hone, length_splitWords, wordsPerEntry, if_pos hlt]

/-- The words that a write stores, with their addresses: those of every entry in order. -/
def stores (t : Transfer) (values : List ℕ) : List (ℕ × ℕ) :=
  ((List.range t.entries).zip values).flatMap fun p =>
    (t.wordAddresses p.1).zip ((t.entryWords p.2).map (· &&& wordMask t.wordWidth))

/-- Whatever is said about block writes, the words are stored at the addresses of the entries. -/
lemma yields_writeOffered (t : Transfer) (words : List ℕ) (hlength : words.length = t.entries)
    (offered : Bool) (c : Contents) : Yields (t.writeOffered words offered) c ()
      (c.setAll (t.addresses.zip (words.map (· &&& wordMask t.width)))) := by
  have hzip : t.addresses.zip (words.map (· &&& wordMask t.width)) =
      words.zipIdx.map fun p => (t.entryAddress p.2, p.1 &&& wordMask t.width) := by
    rw [addresses, ← hlength]
    refine List.ext_getElem (by simp) fun i _ _ => ?_
    simp
  unfold writeOffered
  rw [hzip]
  by_cases hblock : (t.isContiguous && offered) = true
  · rw [if_pos hblock]
    have hstride := stride_of_isContiguous hblock
    simp only [entryAddress, hstride]
    exact yields_writeBlock _ _ _ _ _
  · rw [if_neg hblock, List.map_eq_flatMap]
    exact Yields.forM (fun p _ c => yields_write c _ _ _ _) c

lemma yields_writeWords (t : Transfer) (words : List ℕ) (hlength : words.length = t.entries)
    (c : Contents) : Yields (t.writeWords words) c ()
      (c.setAll (t.addresses.zip (words.map (· &&& wordMask t.width)))) := by
  rw [writeWords_eq, if_neg (by simpa using hlength)]
  by_cases hempty : words.isEmpty
  · have hnil : words = [] := List.isEmpty_iff.1 hempty
    simp only [hnil, List.isEmpty_nil, if_true, List.map_nil, List.zip_nil_right,
      Contents.setAll_nil]
    exact .pure _ _
  · rw [if_neg hempty]
    exact Yields.ofBlockWrites fun offered => yields_writeOffered t words hlength offered c

lemma yields_writeRuns {width : ℕ} {runs : List Transfer} {words : List ℕ}
    (hwidth : ∀ run ∈ runs, run.width = width)
    (hlength : words.length = (runs.flatMap addresses).length) (c : Contents) :
    Yields (writeRuns runs words) c ()
      (c.setAll ((runs.flatMap addresses).zip (words.map (· &&& wordMask width)))) := by
  induction runs generalizing words c with
  | nil => exact .pure _ _
  | cons run rest ih =>
    have hle : run.entries ≤ words.length := by
      simp only [hlength, List.flatMap_cons, List.length_append, length_addresses]
      omega
    have hhead : (words.take run.entries).length = run.entries := by simp [hle]
    have hrest : (words.drop run.entries).length = (rest.flatMap addresses).length := by
      simp only [List.length_drop, hlength, List.flatMap_cons, List.length_append,
        length_addresses]
      omega
    have hsplit : ((run :: rest).flatMap addresses).zip (words.map (· &&& wordMask width)) =
        run.addresses.zip ((words.take run.entries).map (· &&& wordMask run.width)) ++
          (rest.flatMap addresses).zip ((words.drop run.entries).map (· &&& wordMask width)) := by
      rw [hwidth run List.mem_cons_self, List.flatMap_cons, ← List.zip_append (by simp [hle]),
        ← List.map_append, List.take_append_drop]
    rw [hsplit, Contents.setAll_append]
    unfold writeRuns
    exact Yields.bind (yields_writeWords run _ hhead c)
      (ih (fun r hr => hwidth r (List.mem_cons_of_mem _ hr)) hrest _)

/-- Values that a word holds, where an entry is one word, are split without a fault. -/
lemma splitEntries_eq (t : Transfer) {values : List ℕ} (hlength : values.length = t.entries)
    (hfit : t.wordsPerEntry = 1 → ∀ v ∈ values, v ≤ wordMask maxWordWidth) :
    t.splitEntries values = .ok (values.flatMap t.entryWords) := by
  have hsplit : ∀ v ∈ values, t.splitEntry v = .ok (t.entryWords v) := by
    intro v hv
    unfold splitEntry entryWords
    split
    · next hone => rw [if_neg (Nat.not_lt.2 (hfit hone v hv))]
    · rfl
  rw [splitEntries, if_pos hlength, mapM_eq_ok hsplit, List.flatMap_def]
  rfl

lemma stores_eq_zip {t : Transfer} {values : List ℕ} (hlength : values.length = t.entries) :
    t.stores values = ((List.range t.entries).flatMap t.wordAddresses).zip
      ((values.flatMap t.entryWords).map (· &&& wordMask t.wordWidth)) := by
  rw [List.map_flatMap, zip_flatMap (by simp [hlength]) t.length_wordAddresses fun v _ => by simp]
  rfl

/-- The words of the values are as many as the runs have entries. -/
lemma length_flatMap_entryWords {t : Transfer} {values : List ℕ} (hlength : values.length = t.entries) :
    (values.flatMap t.entryWords).length = (t.wordTransfers.flatMap addresses).length := by
  rw [flatMap_addresses]
  simp [List.length_flatMap, hlength]

/-- Writing stores the words of every value at the addresses of its entry. -/
theorem yields_writeValues (t : Transfer) (values : List ℕ) (c : Contents)
    (hwidths : t.checkWidths = .ok ()) (hlength : values.length = t.entries)
    (hfit : t.wordsPerEntry = 1 → ∀ v ∈ values, v ≤ wordMask maxWordWidth) :
    Yields (t.writeValues values) c () (c.setAll (t.stores values)) := by
  unfold writeValues
  refine Yields.bind (.decide hwidths c) ?_
  refine Yields.bind (.decide (splitEntries_eq t hlength hfit) c) ?_
  rw [stores_eq_zip hlength, ← flatMap_addresses]
  exact yields_writeRuns (fun run => width_of_mem_wordTransfers) (length_flatMap_entryWords hlength) c

end Writing

end Transfer

end RegisterMap
