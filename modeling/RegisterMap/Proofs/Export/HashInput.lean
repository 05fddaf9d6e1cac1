import Mathlib
import RegisterMap.Export.HashItem
import RegisterMap.Proofs.Json.Writing

/-!
# Hash inputs are told apart by their bytes

A hash input is written as JSON without blanks.  The written form of an element can be read off the
beginning of any sequence of characters that goes on as a list does, so different inputs have
different bytes (`bytes_injective`), and two inputs with one hash and different bytes are the only
way in which hashes can mislead.
-/

namespace RegisterMap

open Json

/-! ## The first character -/

/-- The sort of value that a character begins. -/
def Json.opening (c : Char) : ℕ :=
  if c = '"' then 0
  else if c = '[' then 1
  else if c = 't' then 2
  else if c = 'f' then 3
  else if c.isDigit ∨ c = '-' then 4
  else 5

namespace HashItem

/-- The sort of an element, by its first character. -/
def opening : HashItem → ℕ
  | text _ => 0
  | list _ => 1
  | flag true => 2
  | flag false => 3
  | int _ => 4

lemma opening_of_digit {c : Char} (h : c.isDigit = true ∨ c = '-') : Json.opening c = 4 := by
  have hne : ∀ d : Char, d.isDigit = false → d ≠ '-' → c ≠ d := by
    rintro d hdigit hsign rfl
    rcases h with h | h
    · rw [hdigit] at h
      cases h
    · exact hsign h
  have hquote := hne '"' (by decide) (by decide)
  have hbracket := hne '[' (by decide) (by decide)
  have ht := hne 't' (by decide) (by decide)
  have hf := hne 'f' (by decide) (by decide)
  simp only [Json.opening, hquote, hbracket, ht, hf, if_false, h, if_true]

lemma write_eq_cons (a : HashItem) :
    ∃ c rest, a.toJson.write = c :: rest ∧ Json.opening c = a.opening := by
  cases a with
  | text s => exact ⟨_, _, rfl, rfl⟩
  | list items =>
    rw [toJson, write]
    exact ⟨_, _, rfl, rfl⟩
  | flag b => cases b <;> exact ⟨_, _, rfl, rfl⟩
  | int i =>
    obtain ⟨c, rest, hlist, hc⟩ := toString_int_eq_cons i
    exact ⟨c, rest, hlist, opening_of_digit hc⟩

lemma opening_eq {a b : HashItem} {s s' : List Char}
    (h : a.toJson.write ++ s = b.toJson.write ++ s') : a.opening = b.opening := by
  obtain ⟨c, rest, ha, hopen⟩ := write_eq_cons a
  obtain ⟨d, rest', hb, hopen'⟩ := write_eq_cons b
  rw [ha, hb] at h
  rw [← hopen, ← hopen', (List.cons.inj h).1]

/-- A closing bracket does not begin an element. -/
lemma write_ne_close (a : HashItem) (s s' : List Char) : ']' :: s ≠ a.toJson.write ++ s' := by
  obtain ⟨c, rest, ha, hopen⟩ := write_eq_cons a
  intro h
  rw [ha] at h
  rw [← (List.cons.inj h).1] at hopen
  have hfive : a.opening = 5 := hopen.symm
  cases a with
  | flag b => cases b <;> cases hfive
  | _ => cases hfive

/-! ## The whole -/

/-- What follows an element in a list. -/
def following (items : List HashItem) (s : List Char) : List Char :=
  match items with
  | [] => ']' :: s
  | items => ',' :: separated ',' (writeItems (toJsons items)) ++ ']' :: s

lemma endsNumber_following (items : List HashItem) (s : List Char) :
    EndsNumber (following items s) := by
  cases items <;> simp [following, EndsNumber]

lemma separated_cons (a : HashItem) (items : List HashItem) (s : List Char) :
    separated ',' (writeItems (toJsons (a :: items))) ++ ']' :: s =
      a.toJson.write ++ following items s := by
  cases items with
  | nil => simp [toJsons, writeItems, separated, following]
  | cons b rest => simp [toJsons, writeItems, separated, following]

mutual

theorem write_append_inj : ∀ (a b : HashItem) {s s' : List Char}, EndsNumber s → EndsNumber s' →
    a.toJson.write ++ s = b.toJson.write ++ s' → a = b ∧ s = s'
  | text x, b, s, s', hs, hs', h => by
    have hsort := opening_eq h
    cases b with
    | text y =>
      obtain ⟨hlist, rfl⟩ := writeText_append_inj h
      exact ⟨congrArg text (String.toList_injective hlist), rfl⟩
    | int _ => cases hsort
    | flag v => cases v <;> cases hsort
    | list _ => cases hsort
  | int i, b, s, s', hs, hs', h => by
    have hsort := opening_eq h
    cases b with
    | text _ => cases hsort
    | int j =>
      obtain ⟨rfl, rfl⟩ := toString_int_append_inj hs hs' h
      exact ⟨rfl, rfl⟩
    | flag v => cases v <;> cases hsort
    | list _ => cases hsort
  | flag u, b, s, s', hs, hs', h => by
    have hsort := opening_eq h
    cases b with
    | text _ => cases u <;> cases hsort
    | int _ => cases u <;> cases hsort
    | flag v =>
      cases u <;> cases v
      · exact ⟨rfl, List.append_cancel_left h⟩
      · cases hsort
      · cases hsort
      · exact ⟨rfl, List.append_cancel_left h⟩
    | list _ => cases u <;> cases hsort
  | list xs, b, s, s', hs, hs', h => by
    have hsort := opening_eq h
    cases b with
    | text _ => cases hsort
    | int _ => cases hsort
    | flag v => cases v <;> cases hsort
    | list ys =>
      rw [toJson, toJson, write, write] at h
      obtain ⟨rfl, rfl⟩ := separated_append_inj xs ys (by simpa using h)
      exact ⟨rfl, rfl⟩

theorem separated_append_inj : ∀ (xs ys : List HashItem) {s s' : List Char},
    separated ',' (writeItems (toJsons xs)) ++ ']' :: s =
      separated ',' (writeItems (toJsons ys)) ++ ']' :: s' → xs = ys ∧ s = s'
  | [], ys, s, s', h => by
    cases ys with
    | nil => exact ⟨rfl, (List.cons.inj h).2⟩
    | cons y ys =>
      rw [separated_cons] at h
      exact absurd h (write_ne_close y s _)
  | x :: xs, ys, s, s', h => by
    cases ys with
    | nil =>
      rw [separated_cons] at h
      exact absurd h.symm (write_ne_close x s' _)
    | cons y ys =>
      rw [separated_cons, separated_cons] at h
      obtain ⟨rfl, hrest⟩ := write_append_inj x y (endsNumber_following xs s)
        (endsNumber_following ys s') h
      cases xs with
      | nil =>
        cases ys with
        | nil => exact ⟨rfl, (List.cons.inj hrest).2⟩
        | cons _ _ => exact absurd (List.cons.inj hrest).1 (by decide)
      | cons x' xs =>
        cases ys with
        | nil => exact absurd (List.cons.inj hrest).1 (by decide)
        | cons y' ys =>
          obtain ⟨hitems, rfl⟩ := separated_append_inj (x' :: xs) (y' :: ys) (List.cons.inj hrest).2
          rw [hitems]
          exact ⟨rfl, rfl⟩

end

/-- Different inputs have different bytes. -/
theorem bytes_injective : Function.Injective bytes := by
  intro a b h
  have hencoded : (String.ofList a.toJson.write).toByteArray =
      (String.ofList b.toJson.write).toByteArray := congrArg List.toByteArray h
  have hwritten : a.toJson.write ++ [] = b.toJson.write ++ [] := by
    rw [String.ofList_injective (String.toByteArray_inj.1 hencoded)]
  exact (write_append_inj a b (by simp [EndsNumber]) (by simp [EndsNumber]) hwritten).1

end HashItem

end RegisterMap
