import Mathlib
import RegisterMap.Proofs.Export.TypeNames
import RegisterMap.Proofs.Source.Texts
import RegisterMap.Text.Runs

/-!
# Integer literals

What an integer literal of the generated language means (`literal?`): its digits, in the base that
its marker names, whatever underscores stand among them and whether or not the name of an integer
type follows.

The emitted constants are literals of one form (`Spelled`): a single digit up to nine, and beyond
that the marker `0x` and lowercase hexadecimal digits without a leading zero, with an underscore
before every group of four that is not the first, counted from the last digit.  A constant is
spelled like this and means its number (`spelled_constant`), and no other text is and does
(`Spelled.eq_constant`).
-/

namespace RegisterMap.Text

/-! ## Reading -/

/-- The value of a digit of a base. -/
def digitIn? (base : ℕ) (c : Char) : Option ℕ := (hexDigitValue? c).filter (· < base)

/-- The names of the integer types, of which none has to follow the digits. -/
def literalSuffixes : List String :=
  ["", "u8", "u16", "u32", "u64", "u128", "usize", "i8", "i16", "i32", "i64", "i128", "isize"]

/-- What digits are written with: the digits themselves, and underscores. -/
def isDigitPlace (base : ℕ) (c : Char) : Bool := c == '_' || (digitIn? base c).isSome

/-- The number that digits of a base write, of which there has to be one. -/
def numberIn? (base : ℕ) (cs : List Char) : Option ℕ :=
  let digits := (cs.takeWhile (isDigitPlace base)).filterMap (digitIn? base)
  if digits = [] ∨ String.ofList (cs.dropWhile (isDigitPlace base)) ∉ literalSuffixes then none
  else some (Nat.ofDigits base digits.reverse)

/-- The value of an integer literal. -/
def literal? : List Char → Option ℕ
  | '0' :: 'x' :: rest => numberIn? 16 rest
  | '0' :: 'o' :: rest => numberIn? 8 rest
  | '0' :: 'b' :: rest => numberIn? 2 rest
  | c :: rest => if c.isDigit then numberIn? 10 (c :: rest) else none
  | [] => none

/-! ## The form of constants -/

def lowercaseDigits : List Char :=
  ['0', '1', '2', '3', '4', '5', '6', '7', '8', '9', 'a', 'b', 'c', 'd', 'e', 'f']

/-- Lowercase hexadecimal digits without a leading zero, with an underscore before every group of
four digits counted from the last one. -/
structure Grouped (cs : List Char) : Prop where
  places : ∀ i c, cs.reverse[i]? = some c → if i % 5 = 4 then c = '_' else c ∈ lowercaseDigits
  leading : ∃ c rest, cs = c :: rest ∧ c ∈ lowercaseDigits ∧ c ≠ '0'

/-- A literal of the number, written as constants are. -/
structure Spelled (n : ℕ) (cs : List Char) : Prop where
  value : literal? cs = some n
  digit : n ≤ 9 → cs.length = 1
  groups : 9 < n → ∃ digits, cs = '0' :: 'x' :: digits ∧ Grouped digits

/-! ## Digits -/

variable {n : ℕ} {c : Char} {cs : List Char}

lemma hexDigit_mem (hn : n < 16) : hexDigit n ∈ lowercaseDigits ∧ (n ≠ 0 → hexDigit n ≠ '0') := by
  have hall : ∀ i < 16, hexDigit i ∈ lowercaseDigits ∧ (i ≠ 0 → hexDigit i ≠ '0') := by decide
  exact hall n hn

lemma digitIn?_hexDigit (hn : n < 16) : digitIn? 16 (hexDigit n) = some n := by
  have hall : ∀ i < 16, digitIn? 16 (hexDigit i) = some i := by decide
  exact hall n hn

lemma exists_eq_hexDigit (hc : c ∈ lowercaseDigits) : ∃ digit < 16, c = hexDigit digit := by
  have hall : lowercaseDigits.all (fun d => (List.range 16).any (d == hexDigit ·)) = true := by
    decide
  simpa using List.all_eq_true.1 hall c hc

lemma mem_lowercaseDigits_of_mem (hc : c ∈ hexDigits n) : c ∈ lowercaseDigits := by
  induction n using hexDigits.induct with
  | case1 n hn =>
    rw [hexDigits_of_lt hn, List.mem_singleton] at hc
    exact hc ▸ (hexDigit_mem hn).1
  | case2 n hn ih =>
    rw [hexDigits_of_not_lt hn, List.mem_append, List.mem_singleton] at hc
    rcases hc with hc | rfl
    · exact ih hc
    · exact (hexDigit_mem (Nat.mod_lt n (by decide))).1

lemma isDigitPlace_of_mem (hc : c ∈ lowercaseDigits) : isDigitPlace 16 c = true := by
  have hall : lowercaseDigits.all (isDigitPlace 16) = true := by decide
  exact List.all_eq_true.1 hall c hc

/-- The digits of a number, last one first, are its digits. -/
lemma ofDigits_hexDigits (n : ℕ) :
    Nat.ofDigits 16 ((hexDigits n).filterMap (digitIn? 16)).reverse = n := by
  induction n using hexDigits.induct with
  | case1 n hn => simp [hexDigits_of_lt hn, digitIn?_hexDigit hn]
  | case2 n hn ih =>
    rw [hexDigits_of_not_lt hn, List.filterMap_append, List.filterMap_cons,
      digitIn?_hexDigit (Nat.mod_lt n (by decide)), List.filterMap_nil, List.reverse_append,
      List.reverse_singleton, List.singleton_append, Nat.ofDigits_cons, ih]
    exact Nat.mod_add_div n 16

/-- A positive number has no leading zero. -/
lemma exists_hexDigits_eq_cons (hn : n ≠ 0) :
    ∃ c rest, hexDigits n = c :: rest ∧ c ∈ lowercaseDigits ∧ c ≠ '0' := by
  induction n using hexDigits.induct with
  | case1 n hlt =>
    obtain ⟨hmem, hzero⟩ := hexDigit_mem hlt
    exact ⟨_, [], hexDigits_of_lt hlt, hmem, hzero hn⟩
  | case2 n hge ih =>
    obtain ⟨c, rest, hdigits, hc⟩ := ih (by omega)
    exact ⟨c, rest ++ [hexDigit (n % 16)], by rw [hexDigits_of_not_lt hge, hdigits]; rfl, hc⟩

/-! ## Groups -/

lemma filterMap_groupDigits (f : Char → Option ℕ) (hmark : f '_' = none) (cs : List Char) :
    (groupDigits cs).filterMap f = cs.filterMap f := by
  induction cs using groupDigits.induct with
  | case1 a b c d e rest ih => simp [groupDigits, List.filterMap_cons, hmark, ih]
  | case2 cs hshort => rw [groupDigits]; exact hshort

/-- Up to four digits are one group. -/
lemma groupDigits_of_length_le (hlength : cs.length ≤ 4) : groupDigits cs = cs := by
  refine groupDigits.eq_2 cs fun a b c d e rest hlong => ?_
  simp only [hlong, List.length_cons] at hlength
  omega

/-- What is not grouped any further is one group. -/
lemma length_le_of_short
    (hshort : ∀ a b c d e rest, cs = a :: b :: c :: d :: e :: rest → False) : cs.length ≤ 4 := by
  by_contra hlong
  rcases cs with _ | ⟨a, _ | ⟨b, _ | ⟨c, _ | ⟨d, _ | ⟨e, rest⟩⟩⟩⟩⟩
  case cons.cons.cons.cons.cons => exact hshort a b c d e rest rfl
  all_goals simp at hlong

/-- Of grouped digits every fifth place is an underscore, and no other one. -/
lemma getElem?_groupDigits (hcs : ∀ d ∈ cs, d ∈ lowercaseDigits) (i : ℕ)
    (hi : (groupDigits cs)[i]? = some c) : if i % 5 = 4 then c = '_' else c ∈ lowercaseDigits := by
  induction cs using groupDigits.induct generalizing i with
  | case1 a b d e f rest ih =>
    rw [groupDigits] at hi
    rcases i with _ | _ | _ | _ | _ | i
    -- the fifth place, and the places of the next groups
    case succ.succ.succ.succ.zero =>
      cases hi
      rfl
    case succ.succ.succ.succ.succ =>
      have hplace : (i + 1 + 1 + 1 + 1 + 1) % 5 = i % 5 := by omega
      rw [hplace]
      exact ih (fun g hg => hcs g (by simp_all)) i hi
    all_goals
      cases hi
      exact hcs _ (by simp)
  | case2 cs hshort =>
    have hlength := length_le_of_short hshort
    rw [groupDigits.eq_2 _ hshort] at hi
    have hplace := (List.getElem?_eq_some_iff.1 hi).1
    rw [if_neg (by omega)]
    exact hcs c (List.mem_of_getElem? hi)

lemma getLast?_groupDigits (cs : List Char) : (groupDigits cs).getLast? = cs.getLast? := by
  induction cs using groupDigits.induct with
  | case1 a b c d e rest ih =>
    simp only [groupDigits, List.getLast?_cons_cons]
    rw [List.getLast?_cons, ih]
    simp [List.getLast?_cons]
  | case2 cs hshort => rw [groupDigits.eq_2 _ hshort]

/-- The digits of a positive number are grouped from the last one on. -/
lemma grouped_hexDigits (hn : n ≠ 0) : Grouped (groupDigits (hexDigits n).reverse).reverse := by
  constructor
  · intro i c hi
    rw [List.reverse_reverse] at hi
    exact getElem?_groupDigits (fun d hd => mem_lowercaseDigits_of_mem (List.mem_reverse.1 hd)) i hi
  · obtain ⟨c, rest, hdigits, hc⟩ := exists_hexDigits_eq_cons hn
    have hhead : (groupDigits (hexDigits n).reverse).reverse.head? = some c := by
      rw [List.head?_reverse, getLast?_groupDigits, List.getLast?_reverse, hdigits]
      rfl
    obtain ⟨rest', hgrouped⟩ := List.head?_eq_some_iff.1 hhead
    exact ⟨c, rest', hgrouped, hc⟩

/-! ## Values -/

/-- Digits and underscores are read to their end, where nothing or the name of a type follows. -/
lemma numberIn?_append {base : ℕ} {suffix : List Char}
    (hcs : ∀ c ∈ cs, isDigitPlace base c = true) (hdigit : cs.filterMap (digitIn? base) ≠ [])
    (hsuffix : String.ofList suffix ∈ literalSuffixes)
    (hstop : suffix.head?.any (isDigitPlace base) = false) :
    numberIn? base (cs ++ suffix) =
      some (Nat.ofDigits base (cs.filterMap (digitIn? base)).reverse) := by
  obtain ⟨htake, hdrop⟩ : suffix.takeWhile (isDigitPlace base) = [] ∧
      suffix.dropWhile (isDigitPlace base) = suffix := by
    cases suffix with
    | nil => exact ⟨rfl, rfl⟩
    | cons c rest =>
      have hc : isDigitPlace base c = false := by simpa using hstop
      simp [hc]
  rw [numberIn?, List.takeWhile_append_of_pos hcs, List.dropWhile_append_of_pos hcs, htake, hdrop,
    List.append_nil, if_neg (by simp [hdigit, hsuffix])]

lemma numberIn?_of_places {base : ℕ} (hcs : ∀ c ∈ cs, isDigitPlace base c = true)
    (hdigit : cs.filterMap (digitIn? base) ≠ []) :
    numberIn? base cs = some (Nat.ofDigits base (cs.filterMap (digitIn? base)).reverse) := by
  have hsuffix : String.ofList [] ∈ literalSuffixes := by decide
  simpa using numberIn?_append hcs hdigit hsuffix rfl

/-- A literal begins with a digit. -/
lemma literal?_eq_none (h : cs.head?.any Char.isDigit = false) : literal? cs = none := by
  unfold literal?
  split
  · cases h
  · cases h
  · cases h
  · next c rest _ _ _ => exact if_neg (by simpa using h)
  · rfl

lemma isDigitPlace_of_isDigit (hc : c.isDigit = true) : isDigitPlace 10 c = true := by
  have hascii : c.toNat < 128 := Identifier.toNat_lt_of_isWord (by
    simp [Identifier.isWord, Char.isAlphanum, hc])
  exact Identifier.forall_ascii (P := fun c => c.isDigit = true → isDigitPlace 10 c = true)
    (by decide +kernel) hascii hc

/-- The decimal digits of a number write it. -/
lemma ofDigits_toDigits (n : ℕ) :
    (Nat.toDigits 10 n).filterMap (digitIn? 10) ≠ [] ∧
      Nat.ofDigits 10 ((Nat.toDigits 10 n).filterMap (digitIn? 10)).reverse = n := by
  have hdigit : ∀ m < 10, digitIn? 10 m.digitChar = some m := by decide
  induction n using Nat.strong_induction_on with
  | _ n ih =>
    by_cases hn : n < 10
    · simp [Nat.toDigits_of_lt_base hn, hdigit n hn]
    · have hmod : n % 10 < 10 := Nat.mod_lt n (by decide)
      rw [Nat.toDigits_of_base_le (by decide) (Nat.le_of_not_lt hn), List.filterMap_append,
        List.filterMap_cons, hdigit _ hmod, List.filterMap_nil, List.reverse_append,
        List.reverse_singleton, List.singleton_append, Nat.ofDigits_cons,
        (ih (n / 10) (by omega)).2]
      exact ⟨by simp, Nat.mod_add_div n 10⟩

/-- A number in decimal digits is a literal of it. -/
theorem literal?_toDigits (n : ℕ) : literal? (Nat.toDigits 10 n) = some n := by
  have hdigits : ∀ c ∈ Nat.toDigits 10 n, c.isDigit = true := fun c hc =>
    Nat.isDigit_of_mem_toDigits (by decide) (by decide) hc
  have hdecimal : ∀ cs : List Char, (∀ c ∈ cs, c.isDigit = true) → cs ≠ [] →
      literal? cs = numberIn? 10 cs := by
    intro cs hcs hne
    unfold literal?
    split
    · cases hcs 'x' (by simp)
    · cases hcs 'o' (by simp)
    · cases hcs 'b' (by simp)
    · next c rest _ _ _ => exact if_pos (hcs c (by simp))
    · exact absurd rfl hne
  obtain ⟨hne, hvalue⟩ := ofDigits_toDigits n
  rw [hdecimal _ hdigits Nat.toDigits_ne_nil,
    numberIn?_of_places (fun c hc => isDigitPlace_of_isDigit (hdigits c hc)) hne, hvalue]

/-! ## Constants -/

lemma toList_constant_of_le (hn : n ≤ 9) : (constant n).toList = Nat.toDigits 10 n := by
  rw [constant, if_pos hn]
  exact Nat.toList_repr

lemma toList_constant_of_lt (hn : 9 < n) :
    (constant n).toList = '0' :: 'x' :: (groupDigits (hexDigits n).reverse).reverse := by
  rw [constant, if_neg (Nat.not_le.2 hn), String.toList_ofList]

/-- The digits of a larger constant, in their groups. -/
lemma groups_of_lt (hn : 9 < n) :
    (∀ c ∈ (groupDigits (hexDigits n).reverse).reverse, isDigitPlace 16 c = true) ∧
      (groupDigits (hexDigits n).reverse).reverse.filterMap (digitIn? 16) ≠ [] ∧
      Nat.ofDigits 16
        ((groupDigits (hexDigits n).reverse).reverse.filterMap (digitIn? 16)).reverse = n := by
  have hdigits : (groupDigits (hexDigits n).reverse).reverse.filterMap (digitIn? 16) =
      (hexDigits n).filterMap (digitIn? 16) := by
    rw [List.filterMap_reverse, filterMap_groupDigits _ rfl, List.filterMap_reverse,
      List.reverse_reverse]
  have hvalue := ofDigits_hexDigits n
  rw [hdigits]
  refine ⟨fun c hc => ?_, fun hnil => ?_, hvalue⟩
  · rcases eq_or_mem_of_mem_groupDigits (List.mem_reverse.1 hc) with rfl | hc
    · rfl
    · exact isDigitPlace_of_mem (mem_lowercaseDigits_of_mem (List.mem_reverse.1 hc))
  · rw [hnil, List.reverse_nil, Nat.ofDigits_nil] at hvalue
    omega

/-- A constant is a literal of its number. -/
theorem literal?_constant (n : ℕ) : literal? (constant n).toList = some n := by
  by_cases hn : n ≤ 9
  · rw [toList_constant_of_le hn, literal?_toDigits]
  · obtain ⟨hplaces, hne, hvalue⟩ := groups_of_lt (Nat.lt_of_not_le hn)
    rw [toList_constant_of_lt (Nat.lt_of_not_le hn)]
    change numberIn? 16 _ = some n
    rw [numberIn?_of_places hplaces hne, hvalue]

/-- The type behind a constant changes nothing. -/
theorem literal?_typed_constant (n : ℕ) :
    literal? ((constant n).toList ++ "_u128".toList) = some n := by
  by_cases hn : n ≤ 9
  · have hall : ∀ m ≤ 9, literal? (Nat.toDigits 10 m ++ "_u128".toList) = some m := by
      decide +kernel
    rw [toList_constant_of_le hn]
    exact hall n hn
  · obtain ⟨hplaces, hne, hvalue⟩ := groups_of_lt (Nat.lt_of_not_le hn)
    have hsplit : "_u128".toList = ['_'] ++ "u128".toList := rfl
    rw [toList_constant_of_lt (Nat.lt_of_not_le hn), hsplit, ← List.append_assoc]
    change numberIn? 16 ((groupDigits (hexDigits n).reverse).reverse ++ ['_'] ++ _) = some n
    have hmark : ∀ cs : List Char, (cs ++ ['_']).filterMap (digitIn? 16) =
        cs.filterMap (digitIn? 16) := by
      intro cs
      rw [List.filterMap_append]
      exact List.append_nil _
    rw [numberIn?_append _ _ (by decide) rfl, hmark, hvalue]
    · intro c hc
      rcases List.mem_append.1 hc with hc | hc
      · exact hplaces c hc
      · rw [List.mem_singleton.1 hc]
        rfl
    · rwa [hmark]

theorem spelled_constant (n : ℕ) : Spelled n (constant n).toList := by
  refine ⟨literal?_constant n, fun hn => ?_, fun hn => ?_⟩
  · have hall : ∀ m ≤ 9, (Nat.toDigits 10 m).length = 1 := by decide
    rw [toList_constant_of_le hn]
    exact hall n hn
  · exact ⟨_, toList_constant_of_lt hn, grouped_hexDigits (by omega)⟩

/-! ## No other text is spelled like a constant -/

lemma ne_underscore_of_mem (hc : c ∈ lowercaseDigits) : (c != '_') = true := by
  have hall : lowercaseDigits.all (· != '_') = true := by decide
  exact List.all_eq_true.1 hall c hc

/-- What is grouped, last digit first, is what grouping makes of its digits. -/
lemma groupDigits_filter : ∀ {cs : List Char},
    (∀ i c, cs[i]? = some c → if i % 5 = 4 then c = '_' else c ∈ lowercaseDigits) →
      cs.getLast? ≠ some '_' → groupDigits (cs.filter (· != '_')) = cs
  | a :: b :: c :: d :: mark :: e :: rest, hplaces, hlast => by
    have hrest : groupDigits ((e :: rest).filter (· != '_')) = e :: rest :=
      groupDigits_filter (fun i x hx => by simpa using hplaces (i + 5) x hx) (by simpa using hlast)
    have hmark : mark = '_' := hplaces 4 mark rfl
    have ha := ne_underscore_of_mem (hplaces 0 a rfl)
    have hb := ne_underscore_of_mem (hplaces 1 b rfl)
    have hc := ne_underscore_of_mem (hplaces 2 c rfl)
    have hd := ne_underscore_of_mem (hplaces 3 d rfl)
    have he := ne_underscore_of_mem (hplaces 5 e rfl)
    simp only [hmark, List.filter, ha, hb, hc, hd, he, bne_self_eq_false, groupDigits] at hrest ⊢
    rw [hrest]
  | [a, b, c, d, mark], hplaces, hlast => by
    have hmark : mark = '_' := hplaces 4 mark rfl
    simp [hmark] at hlast
  | [], hplaces, _ | [_], hplaces, _ | [_, _], hplaces, _ | [_, _, _], hplaces, _
  | [_, _, _, _], hplaces, _ => by
    rw [List.filter_eq_self.2, groupDigits_of_length_le (by simp)]
    intro x hx
    obtain ⟨i, hi⟩ := List.mem_iff_getElem?.1 hx
    have hlength := (List.getElem?_eq_some_iff.1 hi).1
    have hplace := hplaces i x hi
    simp only [List.length_cons, List.length_nil] at hlength
    rw [if_neg (by omega)] at hplace
    exact ne_underscore_of_mem hplace

/-- Digits without a leading zero are those of the number that they write. -/
lemma hexDigits_ofDigits (hcs : ∀ d ∈ cs, d ∈ lowercaseDigits) (hne : cs ≠ [])
    (hleading : cs.head? ≠ some '0') :
    hexDigits (Nat.ofDigits 16 (cs.filterMap (digitIn? 16)).reverse) = cs := by
  induction cs using List.reverseRecOn with
  | nil => exact absurd rfl hne
  | append_singleton front last ih =>
    obtain ⟨digit, hlt, hdigit⟩ := exists_eq_hexDigit (hcs last (by simp))
    have hvalue : Nat.ofDigits 16 ((front ++ [last]).filterMap (digitIn? 16)).reverse =
        digit + 16 * Nat.ofDigits 16 (front.filterMap (digitIn? 16)).reverse := by
      rw [List.filterMap_append, List.filterMap_cons, hdigit, digitIn?_hexDigit hlt,
        List.filterMap_nil, List.reverse_append, List.reverse_singleton, List.singleton_append,
        Nat.ofDigits_cons]
    rw [hvalue]
    by_cases hfront : front = []
    · simp [hfront, hexDigits_of_lt hlt, hdigit]
    · have hrest := ih (fun d hd => hcs d (List.mem_append_left _ hd)) hfront
        (by rwa [List.head?_append_of_ne_nil _ hfront] at hleading)
      have hpos : Nat.ofDigits 16 (front.filterMap (digitIn? 16)).reverse ≠ 0 := by
        intro hzero
        rw [hzero] at hrest
        rw [← hrest, hexDigits_of_lt (by decide)] at hleading
        exact hleading rfl
      have hdiv : (digit + 16 * Nat.ofDigits 16 (front.filterMap (digitIn? 16)).reverse) / 16 =
          Nat.ofDigits 16 (front.filterMap (digitIn? 16)).reverse := by omega
      have hmod : (digit + 16 * Nat.ofDigits 16 (front.filterMap (digitIn? 16)).reverse) % 16 =
          digit := by omega
      rw [hexDigits_of_not_lt (by omega), hdiv, hmod, hrest, hdigit]

/-- The literal of one character that means a number is its digit. -/
lemma eq_toDigits_of_singleton (hn : n ≤ 9) (h : literal? [c] = some n) :
    [c] = Nat.toDigits 10 n := by
  have hdigit : c.isDigit = true := by
    by_contra hdigit
    rw [literal?_eq_none (by simpa using hdigit)] at h
    cases h
  have hascii : c.toNat < 128 := Identifier.toNat_lt_of_isWord (by
    simp [Identifier.isWord, Char.isAlphanum, hdigit])
  exact Identifier.forall_ascii
    (P := fun c => ∀ m ≤ 9, literal? [c] = some m → [c] = Nat.toDigits 10 m) (by decide +kernel)
    hascii n hn h

namespace Grouped

lemma eq_or_mem (h : Grouped cs) (hc : c ∈ cs) : c = '_' ∨ c ∈ lowercaseDigits := by
  obtain ⟨i, hi⟩ := List.mem_iff_getElem?.1 (List.mem_reverse.2 hc)
  have hplace := h.places i c hi
  split at hplace
  · exact .inl hplace
  · exact .inr hplace

lemma numberIn?_eq (h : Grouped cs) :
    numberIn? 16 cs = some (Nat.ofDigits 16 (cs.filterMap (digitIn? 16)).reverse) := by
  refine numberIn?_of_places (fun d hd => ?_) ?_
  · rcases h.eq_or_mem hd with rfl | hd
    · rfl
    · exact isDigitPlace_of_mem hd
  · obtain ⟨c, rest, rfl, hc, -⟩ := h.leading
    obtain ⟨digit, hlt, rfl⟩ := exists_eq_hexDigit hc
    simp [digitIn?_hexDigit hlt]

/-- The digits of the number that grouped digits write are those digits. -/
lemma hexDigits_eq (h : Grouped cs) :
    hexDigits (Nat.ofDigits 16 (cs.filterMap (digitIn? 16)).reverse) = cs.filter (· != '_') := by
  obtain ⟨c, rest, rfl, hc, hzero⟩ := h.leading
  have hfilter : (c :: rest).filter (· != '_') = c :: rest.filter (· != '_') :=
    List.filter_cons_of_pos (by simpa using ne_underscore_of_mem hc)
  have hdigits : (c :: rest).filterMap (digitIn? 16) =
      ((c :: rest).filter (· != '_')).filterMap (digitIn? 16) := by
    rw [List.filterMap_filter]
    refine List.filterMap_congr fun d _ => ?_
    by_cases hd : d = '_'
    · rw [hd]
      rfl
    · simp [hd]
  rw [hdigits]
  refine hexDigits_ofDigits (fun d hd => ?_) ?_ ?_
  · obtain ⟨hd, hmark⟩ := List.mem_filter.1 hd
    exact (h.eq_or_mem hd).resolve_left (by simpa using hmark)
  · rw [hfilter]
    exact List.cons_ne_nil _ _
  · rw [hfilter]
    simpa using hzero

lemma groupDigits_eq (h : Grouped cs) :
    groupDigits (cs.filter (· != '_')).reverse = cs.reverse := by
  rw [← List.filter_reverse]
  refine groupDigits_filter h.places ?_
  obtain ⟨c, rest, rfl, hc, -⟩ := h.leading
  rw [List.getLast?_reverse, List.head?_cons]
  simpa using ne_underscore_of_mem hc

end Grouped

/-- A literal of a number that is written as constants are is its constant. -/
theorem Spelled.eq_constant (h : Spelled n cs) : cs = (constant n).toList := by
  by_cases hn : n ≤ 9
  · obtain ⟨c, rfl⟩ := List.length_eq_one_iff.1 (h.digit hn)
    rw [toList_constant_of_le hn]
    exact eq_toDigits_of_singleton hn h.value
  · obtain ⟨digits, rfl, hgrouped⟩ := h.groups (Nat.lt_of_not_le hn)
    have hvalue : numberIn? 16 digits = some n := h.value
    rw [hgrouped.numberIn?_eq, Option.some.injEq] at hvalue
    rw [toList_constant_of_lt (Nat.lt_of_not_le hn), ← hvalue, hgrouped.hexDigits_eq,
      hgrouped.groupDigits_eq, List.reverse_reverse]

end RegisterMap.Text
