import Mathlib
import RegisterMap.Proofs.Source.Texts
import RegisterMap.Source.Model

/-!
# Documentation in generated code

The description of a node is cut into lines before it becomes a comment, so whatever it holds stays
in the comment.  The name is not cut: it is one line of code, and what follows a line feed in it
stands in the file as it is, without indentation and without the mark of a comment.  So a comment is
nothing but comment exactly if those lines of the name look like one themselves (`commented_iff`).
-/

namespace RegisterMap

open Text Lines

/-! ## Comments -/

/-- So many spaces. -/
def spaces (width : ℕ) : String := String.ofList (List.replicate width ' ')

/-- The comment for an optional name and an optional description, indented by so many spaces. -/
def commentText (width : ℕ) (name desc : Option String) : String :=
  Lines.toText ((commentLines name desc).map (spaces width ++ ·))

/-- What a comment line with this indentation begins with. -/
def commentStart (width : ℕ) : List Char := List.replicate width ' ' ++ ['/', '/', '/']

/-- Every line of the text is a comment with this indentation, and a line feed ends the last one. -/
def Commented (width : ℕ) (text : String) : Prop :=
  ∃ lines, splitLines text.toList = lines ++ [[]] ∧ ∀ line ∈ lines, commentStart width <+: line

variable {width : ℕ} {cs line : List Char}

@[simp] lemma toList_spaces (width : ℕ) : (spaces width).toList = List.replicate width ' ' :=
  String.toList_ofList

lemma notMem_commentStart (width : ℕ) : '\n' ∉ commentStart width := by
  simp [commentStart, List.mem_replicate]

/-- A text is a comment if each line of code that it is made of is. -/
lemma commented_toText_iff (ls : Lines) :
    Commented width ls.toText ↔
      ∀ l ∈ ls, ∀ line ∈ splitLines l.toList, commentStart width <+: line := by
  unfold Commented
  rw [splitLines_toText]
  constructor
  · rintro ⟨lines, hlines, hstart⟩ l hl line hline
    refine hstart line ?_
    rw [← (List.append_inj' hlines rfl).1]
    exact List.mem_flatMap.2 ⟨l, hl, hline⟩
  · intro h
    refine ⟨_, rfl, fun line hline => ?_⟩
    obtain ⟨l, hl, hline⟩ := List.mem_flatMap.1 hline
    exact h l hl line hline

/-- Of a line that begins like a comment, what follows its first line feed decides. -/
lemma forall_splitLines_iff (cs : List Char) :
    (∀ line ∈ splitLines (commentStart width ++ cs), commentStart width <+: line) ↔
      ∀ line ∈ (splitLines cs).tail, commentStart width <+: line := by
  obtain ⟨first, others, hcs⟩ := List.exists_cons_of_ne_nil (splitLines_ne_nil cs)
  rw [splitLines_append (notMem_commentStart width), hcs, List.modifyHead_cons,
    List.forall_mem_cons, List.tail_cons, and_iff_right (List.prefix_append _ _)]

/-! ## Lines of a description -/

/-- The lines of a text hold no line feeds, however they end. -/
lemma notMem_of_mem_lines (h : line ∈ Text.lines cs) : '\n' ∉ line := by
  have hended : ∀ l ∈ (splitLines cs).dropLast.map (fun l =>
      if l.getLast? = some '\r' then l.dropLast else l), '\n' ∉ l := by
    intro l hl
    obtain ⟨piece, hpiece, rfl⟩ := List.mem_map.1 hl
    have hnot := notMem_of_mem_splitLines (List.dropLast_subset _ hpiece)
    split
    · exact fun hmem => hnot (List.dropLast_subset _ hmem)
    · exact hnot
  simp only [Text.lines] at h
  split at h
  · exact hended line h
  · exact hended line h
  · next last _ hlast =>
    rcases List.mem_append.1 h with h | h
    · exact hended line h
    · rw [List.mem_singleton.1 h]
      exact notMem_of_mem_splitLines (List.mem_of_getLast? hlast)

lemma trimRight_subset (cs : List Char) : trimRight cs ⊆ cs := by
  intro c hc
  rw [trimRight, List.mem_reverse] at hc
  exact List.mem_reverse.1 ((List.dropWhile_suffix isBlank).subset hc)

/-- The mark of a comment, by which each of its lines of code begins. -/
lemma toList_commentLine (cs : List Char) :
    ∃ rest, (commentLine cs).toList = ['/', '/', '/'] ++ rest ∧ ('\n' ∉ cs → '\n' ∉ rest) := by
  unfold commentLine
  split
  · exact ⟨[], rfl, fun _ => List.not_mem_nil⟩
  · exact ⟨' ' :: cs, by simp, by simp⟩

/-- A line of a comment holds no line feed after its mark unless it shows the name. -/
lemma eq_of_mem_commentLines {name desc : Option String} {l : String}
    (h : l ∈ commentLines name desc) :
    ∃ rest, l.toList = ['/', '/', '/'] ++ rest ∧
      ((∃ n ∈ name, rest = ' ' :: trim n.toList) ∨ '\n' ∉ rest) := by
  rcases List.mem_append.1 h with h | h
  · obtain ⟨n, hn, rfl⟩ := Option.map_eq_some_iff.1 (Option.mem_toList.1 h)
    exact ⟨' ' :: trim n.toList, by simp, .inl ⟨n, hn, rfl⟩⟩
  · cases desc with
    | none => cases h
    | some d =>
      rcases List.mem_append.1 h with h | h
      · have hmark : l = "///" := by grind
        exact ⟨[], by rw [hmark]; rfl, .inr List.not_mem_nil⟩
      · obtain ⟨line, hline, rfl⟩ := List.mem_map.1 h
        obtain ⟨rest, hrest, hnot⟩ := toList_commentLine (trimRight line)
        exact ⟨rest, hrest, .inr (hnot fun hmem =>
          notMem_of_mem_lines hline (trimRight_subset line hmem))⟩

/-! ## Comments in code -/

/-- Code that goes some levels deeper is indented by four spaces for each. -/
lemma iterate_indented {ls : Lines} (h : ∀ l ∈ ls, l.isEmpty = false) (depth : ℕ) :
    indented^[depth] ls = ls.map (spaces (4 * depth) ++ ·) := by
  induction depth with
  | zero => simp [spaces]
  | succ depth ih =>
    rw [Function.iterate_succ_apply', ih, indented, List.map_map]
    refine List.map_congr_left fun l hl => ?_
    have hne : (spaces (4 * depth) ++ l).isEmpty = false := by
      have := h l hl
      simp_all
    have hspaces : spaces (4 * (depth + 1)) = "    " ++ spaces (4 * depth) := by
      refine String.toList_injective ?_
      rw [String.toList_append, toList_spaces, toList_spaces, Nat.mul_succ, Nat.add_comm,
        List.replicate_add]
      rfl
    rw [Function.comp_apply, hne, if_neg Bool.false_ne_true, hspaces, String.append_assoc]

/-- Which comments are comments throughout.  Only the name decides: of its lines, those after the
first have to look like a comment themselves, as they do if there are none.  The text is that of the
code of a comment at any depth. -/
theorem commented_iff (width depth : ℕ) (name desc : Option String) :
    (Commented width (commentText width name desc) ↔
      ∀ n ∈ name, ∀ line ∈ (splitLines (trim n.toList)).tail, commentStart width <+: line) ∧
    (indented^[depth] (commentLines name desc)).toText = commentText (4 * depth) name desc := by
  have hline : ∀ l : String, ∀ rest, l.toList = ['/', '/', '/'] ++ rest →
      ((∀ line ∈ splitLines (spaces width ++ l).toList, commentStart width <+: line) ↔
        ∀ line ∈ (splitLines rest).tail, commentStart width <+: line) := by
    intro l rest hl
    rw [String.toList_append, hl, toList_spaces, ← List.append_assoc]
    exact forall_splitLines_iff rest
  have htail : ∀ n : String, (splitLines (' ' :: trim n.toList)).tail =
      (splitLines (trim n.toList)).tail := by
    intro n
    rw [splitLines_cons (by decide), List.tail_modifyHead]
  constructor
  · unfold commentText
    rw [commented_toText_iff, List.forall_mem_map]
    constructor
    · intro h n hn
      have hname : "/// " ++ String.ofList (trim n.toList) ∈ commentLines name desc :=
        List.mem_append_left _ (Option.mem_toList.2 (Option.map_eq_some_iff.2 ⟨n, hn, rfl⟩))
      have := (hline _ (' ' :: trim n.toList) (by simp)).1 (h _ hname)
      rwa [htail] at this
    · intro h l hl
      obtain ⟨rest, hrest, ⟨n, hn, rfl⟩ | hnot⟩ := eq_of_mem_commentLines hl
      · rw [hline l _ hrest, htail]
        exact h n hn
      · rw [hline l _ hrest, splitLines_of_notMem hnot]
        exact nofun
  · rw [iterate_indented fun l hl => ?_, commentText]
    obtain ⟨rest, hrest, -⟩ := eq_of_mem_commentLines hl
    rw [← Bool.not_eq_true, String.isEmpty_iff]
    rintro rfl
    cases hrest

/-- The second line of a name is no comment. -/
theorem two_line_name_not_commented :
    ¬ Commented 4 (commentText 4 (some "a\nb") none) := by
  unfold commentText
  rw [commented_toText_iff]
  decide +kernel

end RegisterMap
