import Mathlib
import RegisterMap.Json.Value

/-!
# Reading off what was written

Texts, integers and truth values are written as JSON so that the beginning of a character sequence
tells the value that was written there: escapes form a prefix code without the quote, and an integer
ends before the first character that is no digit.  What follows a written value is told as well.
-/

namespace RegisterMap

namespace Json

/-! ## Texts -/

/-- The characters that a string escapes. -/
def escaped : List Char := ['"', '\\'] ++ (List.range 32).map Char.ofNat

lemma escapeChar_of_notMem {c : Char} (h : c ∉ escaped) : escapeChar c = [c] := by
  have hcontrol : ∀ n : ℕ, n < 32 → c.toNat ≠ n := by
    intro n hn heq
    refine h (List.mem_append_right _ (List.mem_map.2 ⟨n, List.mem_range.2 hn, ?_⟩))
    rw [← heq]
    exact Char.ofNat_toNat c
  have hname : ∀ d ∈ escaped, c ≠ d := fun d hd heq => h (heq ▸ hd)
  have hquote := hname '"' (by decide)
  have hslash := hname '\\' (by decide)
  have hline := hname '\n' (by decide)
  have hreturn := hname '\r' (by decide)
  have htab := hname '\t' (by decide)
  have hless : ¬ c.toNat < 0x20 := fun hless => hcontrol _ hless rfl
  simp [escapeChar, hquote, hslash, hline, hreturn, htab, hless, hcontrol 8 (by decide),
    hcontrol 12 (by decide)]

lemma escapeChar_mem {c : Char} (h : c ∈ escaped) : ∃ rest, escapeChar c = '\\' :: rest := by
  have hall : (escaped.all fun c => (escapeChar c).head? == some '\\') = true := by decide +kernel
  exact ⟨_, List.eq_cons_of_mem_head? (eq_of_beq (List.all_eq_true.1 hall c h))⟩

lemma escapeChar_prefix_free {c d : Char} (hc : c ∈ escaped) (hd : d ∈ escaped)
    (h : escapeChar c <+: escapeChar d) : c = d := by
  have hall : (escaped.all fun c => escaped.all fun d =>
      !(escapeChar c).isPrefixOf (escapeChar d) || c == d) = true := by decide +kernel
  have hpair := List.all_eq_true.1 (List.all_eq_true.1 hall c hc) d hd
  rw [List.isPrefixOf_iff_prefix.2 h] at hpair
  exact eq_of_beq hpair

/-- A quote does not begin the escape of anything. -/
lemma escapeChar_ne_quote (c : Char) : ∃ d rest, escapeChar c = d :: rest ∧ d ≠ '"' := by
  by_cases hc : c ∈ escaped
  · obtain ⟨rest, hrest⟩ := escapeChar_mem hc
    exact ⟨_, _, hrest, by decide⟩
  · refine ⟨c, [], escapeChar_of_notMem hc, fun hquote => hc ?_⟩
    rw [hquote]
    decide

/-- No escape is the beginning of another one. -/
lemma escapeChar_append_inj {c d : Char} {s s' : List Char}
    (h : escapeChar c ++ s = escapeChar d ++ s') : c = d ∧ s = s' := by
  by_cases hc : c ∈ escaped <;> by_cases hd : d ∈ escaped
  · have heq : c = d := by
      rcases List.prefix_or_prefix_of_prefix (List.prefix_append _ s)
        (h ▸ List.prefix_append _ s') with hpre | hpre
      · exact escapeChar_prefix_free hc hd hpre
      · exact (escapeChar_prefix_free hd hc hpre).symm
    subst heq
    exact ⟨rfl, List.append_cancel_left h⟩
  · obtain ⟨rest, hrest⟩ := escapeChar_mem hc
    rw [hrest, escapeChar_of_notMem hd] at h
    have hslash : '\\' = d := (List.cons.inj h).1
    exact absurd (hslash ▸ by decide : d ∈ escaped) hd
  · obtain ⟨rest, hrest⟩ := escapeChar_mem hd
    rw [hrest, escapeChar_of_notMem hc] at h
    have hslash : c = '\\' := (List.cons.inj h).1
    exact absurd (hslash ▸ by decide : c ∈ escaped) hc
  · rw [escapeChar_of_notMem hc, escapeChar_of_notMem hd] at h
    exact List.cons.inj h

theorem writeText_append_inj {cs ds : List Char} {s s' : List Char}
    (h : writeText cs ++ s = writeText ds ++ s') : cs = ds ∧ s = s' := by
  have hbody : cs.flatMap escapeChar ++ '"' :: s = ds.flatMap escapeChar ++ '"' :: s' := by
    simpa [writeText] using h
  clear h
  have hquote : ∀ (c : Char) (rest s s' : List Char), '"' :: s ≠ escapeChar c ++ rest ++ s' := by
    intro c rest s s' heq
    obtain ⟨d, tail, hescape, hd⟩ := escapeChar_ne_quote c
    rw [hescape] at heq
    exact hd (List.cons.inj heq).1.symm
  induction cs generalizing ds with
  | nil =>
    cases ds with
    | nil => exact ⟨rfl, (List.cons.inj hbody).2⟩
    | cons d ds => exact absurd hbody (hquote d _ _ _)
  | cons c cs ih =>
    cases ds with
    | nil => exact absurd hbody.symm (hquote c _ _ _)
    | cons d ds =>
      rw [List.flatMap_cons, List.flatMap_cons, List.append_assoc, List.append_assoc] at hbody
      obtain ⟨rfl, hrest⟩ := escapeChar_append_inj hbody
      obtain ⟨rfl, rfl⟩ := ih hrest
      exact ⟨rfl, rfl⟩

/-! ## Numbers -/

/-- The sequence does not go on with a digit or a sign. -/
def EndsNumber (s : List Char) : Prop := ∀ c ∈ s.head?, c.isDigit = false ∧ c ≠ '-'

lemma mem_toString_int {i : ℤ} {c : Char} (h : c ∈ (toString i).toList) :
    c.isDigit = true ∨ c = '-' := by
  have hdigits : ∀ n : ℕ, c ∈ n.repr.toList → c.isDigit = true := by
    intro n hn
    rw [Nat.toList_repr] at hn
    exact Nat.isDigit_of_mem_toDigits (by decide) (by decide) hn
  change c ∈ (Int.repr i).toList at h
  rw [Int.repr_eq_if] at h
  split at h
  · exact .inl (hdigits _ h)
  · rw [String.toList_append, List.mem_append] at h
    rcases h with h | h
    · exact .inr (by simpa using h)
    · exact .inl (hdigits _ h)

/-- Where one sequence of characters of a sort ends before a character of another sort, it is the
whole beginning of that sort. -/
lemma append_inj_of_class {α : Type} {P : α → Prop} {xs ys s s' : List α} (hx : ∀ a ∈ xs, P a)
    (hy : ∀ a ∈ ys, P a) (hs : ∀ a ∈ s.head?, ¬ P a) (hs' : ∀ a ∈ s'.head?, ¬ P a)
    (h : xs ++ s = ys ++ s') : xs = ys ∧ s = s' := by
  induction xs generalizing ys with
  | nil =>
    cases ys with
    | nil => exact ⟨rfl, h⟩
    | cons b ys =>
      rw [List.nil_append] at h
      exact absurd (hy b List.mem_cons_self) (hs b (by simp [h]))
  | cons a xs ih =>
    cases ys with
    | nil =>
      rw [List.nil_append] at h
      exact absurd (hx a List.mem_cons_self) (hs' a (by simp [← h]))
    | cons b ys =>
      obtain ⟨rfl, hrest⟩ := List.cons.inj h
      obtain ⟨rfl, rfl⟩ := ih (fun a ha => hx a (List.mem_cons_of_mem _ ha))
        (fun a ha => hy a (List.mem_cons_of_mem _ ha)) hrest
      exact ⟨rfl, rfl⟩

theorem toString_int_append_inj {i j : ℤ} {s s' : List Char} (hs : EndsNumber s)
    (hs' : EndsNumber s') (h : (toString i).toList ++ s = (toString j).toList ++ s') :
    i = j ∧ s = s' := by
  have hends : ∀ s : List Char, EndsNumber s → ∀ c ∈ s.head?, ¬ (c.isDigit = true ∨ c = '-') := by
    rintro s hs c hc (hdigit | hsign)
    · rw [(hs c hc).1] at hdigit
      cases hdigit
    · exact (hs c hc).2 hsign
  obtain ⟨hlist, hrest⟩ := append_inj_of_class (fun _ => mem_toString_int)
    (fun _ => mem_toString_int) (hends s hs) (hends s' hs') h
  exact ⟨Int.repr_injective (String.toList_injective hlist), hrest⟩

lemma toString_int_eq_cons (i : ℤ) : ∃ c rest, (toString i).toList = c :: rest ∧
    (c.isDigit = true ∨ c = '-') := by
  have hne : (toString i).toList ≠ [] := by
    change (Int.repr i).toList ≠ []
    rw [Int.repr_eq_if]
    split
    · rw [Nat.toList_repr]
      exact Nat.toDigits_ne_nil
    · simp
  obtain ⟨c, rest, hlist⟩ := List.exists_cons_of_ne_nil hne
  exact ⟨c, rest, hlist, mem_toString_int (hlist ▸ List.mem_cons_self)⟩

end Json

end RegisterMap
