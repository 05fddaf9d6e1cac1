import Mathlib
import RegisterMap.Source.Lines
import RegisterMap.Text.Blank
import RegisterMap.Text.Hex
import RegisterMap.Text.Quoted

/-!
# Lines of generated text

Generated code is put together from lines and handed out as text, in which a line feed ends each of
them.  A line that holds a line feed itself becomes several lines of the text
(`Lines.splitLines_toText`).  Where no line does, the lines of the text are those that it was put
together from (`Lines.ofText_toText`), so what a file declares can be read off either.
-/

namespace RegisterMap

namespace Text

variable {c : Char} {cs line : List Char}

/-! ## Pieces between line feeds -/

lemma splitLines_ne_nil (cs : List Char) : splitLines cs ≠ [] := by
  fun_cases splitLines cs <;> simp_all

lemma splitLines_cons (hc : c ≠ '\n') (rest : List Char) :
    splitLines (c :: rest) = (splitLines rest).modifyHead (c :: ·) := by
  rw [splitLines]
  · cases hrest : splitLines rest with
    | nil => exact absurd hrest (splitLines_ne_nil rest)
    | cons line lines => rfl
  · exact hc

/-- A line feed cuts a text in two. -/
lemma splitLines_append_newline (a b : List Char) :
    splitLines (a ++ '\n' :: b) = splitLines a ++ splitLines b := by
  induction a with
  | nil => rfl
  | cons c rest ih =>
    by_cases hc : c = '\n'
    · rw [hc, List.cons_append, splitLines, ih, splitLines, List.cons_append]
    · rw [List.cons_append, splitLines_cons hc, ih, splitLines_cons hc]
      cases hrest : splitLines rest with
      | nil => exact absurd hrest (splitLines_ne_nil rest)
      | cons line lines => rfl

/-- What holds no line feed belongs to the first piece of what follows. -/
lemma splitLines_append {a : List Char} (ha : '\n' ∉ a) (b : List Char) :
    splitLines (a ++ b) = (splitLines b).modifyHead (a ++ ·) := by
  induction a with
  | nil => cases hb : splitLines b <;> simp [hb]
  | cons c rest ih =>
    rw [List.mem_cons, not_or] at ha
    rw [List.cons_append, splitLines_cons (Ne.symm ha.1), ih ha.2]
    cases hb : splitLines b <;> simp

lemma splitLines_of_notMem (h : '\n' ∉ cs) : splitLines cs = [cs] := by
  simpa [splitLines] using splitLines_append h []

lemma notMem_of_mem_splitLines (h : line ∈ splitLines cs) : '\n' ∉ line := by
  induction cs generalizing line with
  | nil => simp_all [splitLines]
  | cons c rest ih =>
    by_cases hc : c = '\n'
    · rw [hc, splitLines] at h
      rcases List.mem_cons.1 h with rfl | h
      · simp
      · exact ih h
    · rw [splitLines_cons hc] at h
      obtain ⟨first, others, hrest⟩ := List.exists_cons_of_ne_nil (splitLines_ne_nil rest)
      rw [hrest, List.modifyHead_cons] at h
      rcases List.mem_cons.1 h with rfl | h
      · have hfirst := ih (hrest ▸ List.mem_cons_self : first ∈ splitLines rest)
        simp [Ne.symm hc, hfirst]
      · exact ih (hrest ▸ List.mem_cons_of_mem first h)

end Text

open Text

/-! ## Lines of code -/

@[simp] lemma toString_string (s : String) : toString s = s := rfl

/-- A line of code that stays one line as text. -/
def OneLine (s : String) : Prop := '\n' ∉ s.toList

instance (s : String) : Decidable (OneLine s) := inferInstanceAs (Decidable ('\n' ∉ s.toList))

lemma oneLine_append_iff {a b : String} : OneLine (a ++ b) ↔ OneLine a ∧ OneLine b := by
  simp [OneLine]

lemma oneLine_ofList {cs : List Char} : OneLine (String.ofList cs) ↔ '\n' ∉ cs := by
  rw [OneLine, String.toList_ofList]

lemma notMem_toDigits (n : ℕ) : '\n' ∉ Nat.toDigits 10 n := fun hmem => by
  cases Nat.isDigit_of_mem_toDigits (by decide) (by decide) hmem

lemma oneLine_toString (n : ℕ) : OneLine (toString n) := by
  intro hmem
  change '\n' ∈ n.repr.toList at hmem
  rw [Nat.toList_repr] at hmem
  exact notMem_toDigits n hmem

lemma notMem_hexDigits (n : ℕ) : '\n' ∉ hexDigits n := by
  have hdigit : ∀ d < 16, '\n' ≠ hexDigit d := by decide
  induction n using hexDigits.induct with
  | case1 n hn =>
    rw [hexDigits, if_pos hn, List.mem_singleton]
    exact hdigit n hn
  | case2 n hn ih =>
    rw [hexDigits, if_neg hn, List.mem_append, List.mem_singleton, not_or]
    exact ⟨ih, hdigit _ (Nat.mod_lt n (by decide))⟩

lemma eq_or_mem_of_mem_groupDigits {c : Char} {cs : List Char} (hc : c ∈ groupDigits cs) :
    c = '_' ∨ c ∈ cs := by
  induction cs using groupDigits.induct with
  | case1 a b d e f rest ih =>
    rw [groupDigits] at hc
    simp only [List.mem_cons] at hc ih ⊢
    tauto
  | case2 cs hshort =>
    rw [groupDigits] at hc
    · exact .inr hc
    · exact hshort

lemma oneLine_constant (n : ℕ) : OneLine (constant n) := by
  unfold constant
  split
  · exact oneLine_toString n
  · rw [oneLine_ofList]
    intro hmem
    simp only [List.mem_cons, List.mem_reverse, Char.reduceEq, false_or] at hmem
    rcases eq_or_mem_of_mem_groupDigits hmem with hmem | hmem
    · cases hmem
    · exact notMem_hexDigits n (List.mem_reverse.1 hmem)

lemma notMem_quoteChar (c : Char) : '\n' ∉ quoteChar c := by
  by_cases hnewline : c = '\n'
  · rw [hnewline]
    decide
  have hkept : '\n' ∉ [c] := fun hmem => hnewline (List.mem_singleton.1 hmem).symm
  have hescaped : '\n' ∉ '\\' :: 'u' :: '\x7b' :: hexDigits c.toNat ++ ['\x7d'] := by
    simp [notMem_hexDigits]
  unfold quoteChar
  split_ifs
  all_goals first | exact hkept | exact hescaped | decide

/-- The quoted form of a text is one line, even if the text is not. -/
lemma oneLine_quoted (text : String) : OneLine (quoted text) := by
  rw [quoted, oneLine_ofList]
  simp [notMem_quoteChar]

namespace Lines

lemma foldl_toText (ls : Lines) (s : String) :
    (ls.foldl (fun text l => text ++ l ++ "\n") s).toList =
      s.toList ++ ls.flatMap fun l => l.toList ++ ['\n'] := by
  induction ls generalizing s with
  | nil => simp
  | cons l rest ih => rw [List.foldl_cons, ih, List.flatMap_cons]; simp

lemma toList_toText (ls : Lines) : ls.toText.toList = ls.flatMap fun l => l.toList ++ ['\n'] :=
  foldl_toText ls ""

/-- The text ends with a line feed, and each line gives its own pieces. -/
theorem splitLines_toText (ls : Lines) :
    splitLines ls.toText.toList = ls.flatMap (fun l => splitLines l.toList) ++ [[]] := by
  rw [toList_toText]
  induction ls with
  | nil => rfl
  | cons l rest ih =>
    rw [List.flatMap_cons, List.append_assoc, List.singleton_append, splitLines_append_newline, ih,
      List.flatMap_cons, List.append_assoc]

/-! ### Lines that stay lines -/

/-- Each of the lines stays one line as text. -/
def Flat (ls : Lines) : Prop := ∀ l ∈ ls, OneLine l

section Flat

variable {ls ls' : Lines} {l head first last : String}

instance (ls : Lines) : Decidable (Flat ls) := List.decidableBAll _ _

@[simp] lemma flat_nil : Flat [] := List.forall_mem_nil _

@[simp] lemma flat_cons_iff : Flat (l :: ls) ↔ OneLine l ∧ Flat ls := List.forall_mem_cons

@[simp] lemma flat_append_iff : Flat (ls ++ ls') ↔ Flat ls ∧ Flat ls' := List.forall_mem_append

@[simp] lemma flat_indented_iff : Flat (indented ls) ↔ Flat ls := by
  unfold Flat indented
  rw [List.forall_mem_map]
  refine forall₂_congr fun l _ => ?_
  split
  · rfl
  · rw [oneLine_append_iff, and_iff_right (by decide)]

@[simp] lemma flat_group_iff :
    Flat (group first last ls) ↔ OneLine first ∧ Flat ls ∧ OneLine last := by
  rw [group, flat_append_iff, flat_cons_iff, flat_cons_iff, flat_indented_iff,
    and_iff_left flat_nil, and_assoc]

@[simp] lemma flat_block_iff : Flat (block head ls) ↔ OneLine head ∧ Flat ls := by
  have hopen : OneLine " \x7b" := by decide
  have hclose : OneLine "\x7d" := by decide
  rw [block, flat_group_iff, oneLine_append_iff, and_iff_left hopen, and_iff_left hclose]

@[simp] lemma flat_apart_iff : Flat (apart ls) ↔ Flat ls := by
  rw [apart, flat_cons_iff, and_iff_right (by decide)]

@[simp] lemma flat_onlyIf_iff {condition : Bool} :
    Flat (onlyIf condition ls) ↔ (condition = true → Flat ls) := by
  cases condition with
  | true => exact ⟨fun h _ => h, fun h => h rfl⟩
  | false => exact iff_of_true flat_nil nofun

lemma flat_flatMap {α : Type} {f : α → Lines} {l : List α} (h : ∀ a ∈ l, Flat (f a)) :
    Flat (l.flatMap f) := by
  intro line hline
  obtain ⟨a, ha, hline⟩ := List.mem_flatMap.1 hline
  exact h a ha line hline

end Flat

/-- The lines of a text, of which each ends with a line feed. -/
def ofText (text : String) : Lines := (splitLines text.toList).dropLast.map String.ofList

/-- The lines of a text are those that it is made of, if each of them is one line. -/
theorem ofText_toText {ls : Lines} (h : Flat ls) : ofText ls.toText = ls := by
  unfold ofText
  rw [splitLines_toText, List.dropLast_concat]
  have hpieces : ls.flatMap (fun l => splitLines l.toList) = ls.map String.toList := by
    rw [List.map_eq_flatMap]
    exact List.flatMap_congr fun l hl => splitLines_of_notMem (h l hl)
  rw [hpieces, List.map_map]
  exact List.map_id'' (fun _ => String.ofList_toList) ls

end Lines

end RegisterMap
