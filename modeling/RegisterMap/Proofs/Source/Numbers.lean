import Mathlib
import RegisterMap.Proofs.Export.Names
import RegisterMap.Proofs.Source.Literals
import RegisterMap.Source.Lines

/-!
# The numbers in a line of code

Which numbers a line of generated code names (`numbersOf`): the integer literals among its words,
outside of texts in quotes and of comments.  A word is a run of characters that separate no words,
and it is a literal if it begins with a digit.

A generator writes a line from fixed pieces of code, names and texts that it fills in, and the
literals of numbers, and `Written` says with which numbers.  That does not depend on what is filled
in: a name may be anything, also another literal or half a text.  Where the names are words of code
that are no literals, and the texts end where they should, a line that is written with some numbers
is read with just these (`Written.numbersOf_eq`): texts are left out as wholes
(`visibleFrom_quoted`), and a line is cut wherever a piece begins or ends with a separator
(`numbersIn_of_endsApart`, `numbersIn_of_beginsApart`).
-/

namespace RegisterMap

open Text

/-! ## Reading a line -/

/-- What a character of a line belongs to. -/
inductive Stretch where
  | code
  /-- Code after one slash. -/
  | slash
  | text
  /-- A text after a backslash. -/
  | escape
  | comment
deriving DecidableEq

namespace Stretch

/-- What a character is to the reader of the code, and what the next one belongs to. -/
def step : Stretch → Char → List Char × Stretch
  | code, c => if c = '"' then (['"'], text) else if c = '/' then ([], slash) else ([c], code)
  | slash, c =>
    if c = '/' then ([], comment) else if c = '"' then (['/', '"'], text) else (['/', c], code)
  | text, c => if c = '"' then (['"'], code) else if c = '\\' then ([], escape) else ([], text)
  | escape, _ => ([], text)
  | comment, c => if c = '\n' then ([c], code) else ([], comment)

/-- What the next character belongs to after some. -/
def after (s : Stretch) (cs : List Char) : Stretch := cs.foldl (fun s c => (s.step c).2) s

end Stretch

/-- The code among the characters, of a text nothing but its quotes. -/
def visibleFrom : Stretch → List Char → List Char
  | _, [] => []
  | s, c :: rest => (s.step c).1 ++ visibleFrom (s.step c).2 rest

/-- Characters that words are made of. -/
def isWordCharacter (c : Char) : Bool := c == '_' || !Identifier.isSeparator c

/-- The runs of characters between separators, also the empty ones. -/
def wordsOf : List Char → List (List Char)
  | [] => [[]]
  | c :: rest =>
    if isWordCharacter c then (wordsOf rest).modifyHead (c :: ·) else [] :: wordsOf rest

/-- The literals among the words of code. -/
def numbersIn (cs : List Char) : List ℕ := (wordsOf cs).filterMap literal?

/-- The numbers that characters name, read from a stretch on. -/
def numbersFrom (s : Stretch) (cs : List Char) : List ℕ := numbersIn (visibleFrom s cs)

/-- The numbers that a line of code names. -/
def numbersOf (l : String) : List ℕ := numbersFrom .code l.toList

/-- The numbers that lines of code name. -/
def Lines.numbers (ls : Lines) : List ℕ := ls.flatMap numbersOf

/-! ## Code and texts -/

variable {s : Stretch} {a b rest : List Char} {c : Char} {name : String} {n : ℕ}

/-- What stands behind a piece is read from where the piece ends. -/
lemma visibleFrom_append (s : Stretch) (a b : List Char) :
    visibleFrom s (a ++ b) = visibleFrom s a ++ visibleFrom (s.after a) b := by
  induction a generalizing s with
  | nil => rfl
  | cons c rest ih =>
    rw [List.cons_append, visibleFrom, visibleFrom, ih, List.append_assoc]
    rfl

/-- The characters neither open a text nor begin a comment. -/
def Bare (cs : List Char) : Prop := ∀ c ∈ cs, c ≠ '"' ∧ c ≠ '/'

instance (cs : List Char) : Decidable (Bare cs) := List.decidableBAll _ _

/-- Bare code is seen as it is. -/
lemma visibleFrom_bare (ha : Bare a) (rest : List Char) :
    visibleFrom .code (a ++ rest) = a ++ visibleFrom .code rest := by
  induction a with
  | nil => rfl
  | cons c a ih =>
    have hc := ha c List.mem_cons_self
    have hstep : Stretch.code.step c = ([c], .code) := by
      rw [Stretch.step, if_neg hc.1, if_neg hc.2]
    rw [List.cons_append, visibleFrom, hstep, ih fun d hd => ha d (List.mem_cons_of_mem c hd)]
    rfl

/-- The characters stand in a text as they are. -/
def Unescaped (cs : List Char) : Prop := ∀ c ∈ cs, c ≠ '"' ∧ c ≠ '\\'

instance (cs : List Char) : Decidable (Unescaped cs) := List.decidableBAll _ _

/-- Of a text nothing is seen. -/
lemma visibleFrom_unescaped (ha : Unescaped a) (rest : List Char) :
    visibleFrom .text (a ++ rest) = visibleFrom .text rest := by
  induction a with
  | nil => rfl
  | cons c a ih =>
    have hc := ha c List.mem_cons_self
    have hstep : Stretch.text.step c = ([], .text) := by
      rw [Stretch.step, if_neg hc.1, if_neg hc.2]
    rw [List.cons_append, visibleFrom, hstep]
    exact ih fun d hd => ha d (List.mem_cons_of_mem c hd)

lemma unescaped_hexDigits (n : ℕ) : Unescaped (hexDigits n) := by
  intro c hc
  have hall : lowercaseDigits.all (fun c => c != '"' && c != '\\') = true := by decide
  simpa using List.all_eq_true.1 hall c (mem_lowercaseDigits_of_mem hc)

/-- The quoted form of a character does not end the text. -/
lemma visibleFrom_quoteChar (c : Char) (rest : List Char) :
    visibleFrom .text (quoteChar c ++ rest) = visibleFrom .text rest := by
  have hkept : c ≠ '"' → c ≠ '\\' → visibleFrom .text ([c] ++ rest) = visibleFrom .text rest :=
    fun hquote hslash => visibleFrom_unescaped (by simp [Unescaped, hquote, hslash]) rest
  have hpoint : Unescaped ('\x7b' :: hexDigits c.toNat ++ ['\x7d']) := by
    intro d hd
    rw [List.cons_append, List.mem_cons, List.mem_append, List.mem_singleton] at hd
    rcases hd with rfl | hd | rfl
    · decide
    · exact unescaped_hexDigits _ d hd
    · decide
  unfold quoteChar
  split_ifs with hquote hslash
  -- the escapes of one letter
  · rfl
  · rfl
  · rfl
  · rfl
  · rfl
  · rfl
  · exact hkept hquote hslash
  · exact visibleFrom_unescaped hpoint rest
  · exact hkept hquote hslash

/-- A quoted text is left out, whatever it says. -/
theorem visibleFrom_quoted (name : String) (rest : List Char) :
    visibleFrom .code ((quoted name).toList ++ rest) = '"' :: '"' :: visibleFrom .code rest := by
  have hinside : ∀ cs : List Char, visibleFrom .text (cs.flatMap quoteChar ++ '"' :: rest) =
      '"' :: visibleFrom .code rest := by
    intro cs
    induction cs with
    | nil => rfl
    | cons c cs ih => rw [List.flatMap_cons, List.append_assoc, visibleFrom_quoteChar, ih]
  rw [quoted, String.toList_ofList, List.append_assoc]
  exact congrArg ('"' :: ·) (hinside name.toList)

/-! ## Words -/

lemma wordsOf_ne_nil (cs : List Char) : wordsOf cs ≠ [] := by
  cases cs with
  | nil => exact List.cons_ne_nil _ _
  | cons c rest =>
    rw [wordsOf]
    split
    · cases hrest : wordsOf rest with
      | nil => exact absurd hrest (wordsOf_ne_nil rest)
      | cons first others => exact List.cons_ne_nil _ _
    · exact List.cons_ne_nil _ _

/-- A separator cuts code in two. -/
lemma wordsOf_append_separator (hc : isWordCharacter c = false) (a b : List Char) :
    wordsOf (a ++ c :: b) = wordsOf a ++ wordsOf b := by
  induction a with
  | nil => simp [wordsOf, hc]
  | cons d a ih =>
    rw [List.cons_append, wordsOf, wordsOf, ih]
    split
    · obtain ⟨first, others, ha⟩ := List.exists_cons_of_ne_nil (wordsOf_ne_nil a)
      simp [ha]
    · rfl

lemma wordsOf_word (ha : ∀ c ∈ a, isWordCharacter c = true) : wordsOf a = [a] := by
  induction a with
  | nil => rfl
  | cons c a ih =>
    rw [wordsOf, if_pos (ha c List.mem_cons_self), ih fun d hd => ha d (List.mem_cons_of_mem c hd)]
    rfl

lemma numbersIn_append_separator (hc : isWordCharacter c = false) (a b : List Char) :
    numbersIn (a ++ c :: b) = numbersIn a ++ numbersIn b := by
  rw [numbersIn, wordsOf_append_separator hc, List.filterMap_append]
  rfl

lemma numbersIn_word (ha : ∀ c ∈ a, isWordCharacter c = true) :
    numbersIn a = (literal? a).toList := by
  rw [numbersIn, wordsOf_word ha, List.filterMap_cons]
  cases literal? a <;> rfl

lemma numbersIn_nil : numbersIn [] = [] := rfl

lemma numbersFrom_nil (s : Stretch) : numbersFrom s [] = [] := rfl

/-! ## Pieces of a line -/

/-- The piece ends with a separator, so what follows it is read on its own. -/
def endsApart (piece : List Char) : Bool := piece.getLast?.any fun c => !isWordCharacter c

/-- The piece begins with a separator, so what stands before it is read on its own. -/
def beginsApart (piece : List Char) : Bool := piece.head?.any fun c => !isWordCharacter c

lemma numbersIn_of_endsApart (ha : endsApart a = true) (rest : List Char) :
    numbersIn (a ++ rest) = numbersIn a ++ numbersIn rest := by
  obtain ⟨c, hlast, hc⟩ := (Option.any_eq_true _ _).1 ha
  obtain ⟨front, rfl⟩ := List.getLast?_eq_some_iff.1 hlast
  have hc : isWordCharacter c = false := by simpa using hc
  rw [List.append_assoc, List.singleton_append, numbersIn_append_separator hc,
    numbersIn_append_separator hc, numbersIn_nil, List.append_nil]

lemma numbersIn_of_beginsApart (hb : beginsApart b = true) (a : List Char) :
    numbersIn (a ++ b) = numbersIn a ++ numbersIn b := by
  obtain ⟨c, hhead, hc⟩ := (Option.any_eq_true _ _).1 hb
  obtain ⟨rest, rfl⟩ := List.head?_eq_some_iff.1 hhead
  have hc : isWordCharacter c = false := by simpa using hc
  have hrest := numbersIn_append_separator hc [] rest
  rw [List.nil_append, numbersIn_nil, List.nil_append] at hrest
  rw [numbersIn_append_separator hc, hrest]

/-- A piece of a line that leads from one stretch to another and names some numbers, the last of
them before its last character, which is a separator. -/
def Shows (s s' : Stretch) (piece : String) (ns : List ℕ) : Prop :=
  s.after piece.toList = s' ∧ endsApart (visibleFrom s piece.toList) = true ∧
    numbersIn (visibleFrom s piece.toList) = ns

instance (s s' : Stretch) (piece : String) (ns : List ℕ) : Decidable (Shows s s' piece ns) :=
  inferInstanceAs (Decidable (_ ∧ _ ∧ _))

lemma numbersFrom_shows {s s' : Stretch} {piece : String} {ns : List ℕ} (h : Shows s s' piece ns)
    (rest : List Char) : numbersFrom s (piece.toList ++ rest) = ns ++ numbersFrom s' rest := by
  rw [numbersFrom, visibleFrom_append, numbersIn_of_endsApart h.2.1, h.1, h.2.2, numbersFrom]

/-- A piece of code that begins with a separator which is seen as it is. -/
def Cuts (piece : String) : Prop := beginsApart (visibleFrom .code piece.toList) = true

instance (piece : String) : Decidable (Cuts piece) := inferInstanceAs (Decidable (_ = true))

lemma beginsApart_append (ha : beginsApart a = true) (b : List Char) :
    beginsApart (a ++ b) = true := by
  obtain ⟨c, hhead, hc⟩ := (Option.any_eq_true _ _).1 ha
  obtain ⟨rest, rfl⟩ := List.head?_eq_some_iff.1 hhead
  simpa [beginsApart] using hc

lemma numbersOf_of_bare {code : String} (hcode : Bare code.toList) :
    numbersOf code = numbersIn code.toList := by
  have hseen := visibleFrom_bare hcode []
  rw [List.append_nil, visibleFrom, List.append_nil] at hseen
  rw [numbersOf, numbersFrom, hseen]

lemma numbersFrom_bare {code piece : String} (hcode : Bare code.toList) (hpiece : Cuts piece)
    (rest : List Char) :
    numbersFrom .code (code.toList ++ (piece.toList ++ rest)) =
      numbersOf code ++ numbersFrom .code (piece.toList ++ rest) := by
  rw [numbersFrom, visibleFrom_bare hcode, visibleFrom_append,
    numbersIn_of_beginsApart (beginsApart_append hpiece _), numbersOf_of_bare hcode, numbersFrom,
    visibleFrom_append]

/-! ## Pieces of generated code -/

lemma Unseparated.bare (h : Unseparated name) : Bare name.toList := fun _ hc =>
  ⟨fun hquote => h.notMem (by decide) (by decide) (hquote ▸ hc),
    fun hslash => h.notMem (by decide) (by decide) (hslash ▸ hc)⟩

/-- A name without separators is a single word. -/
lemma Unseparated.numbersOf_eq (h : Unseparated name) :
    numbersOf name = (literal? name.toList).toList := by
  have hword : ∀ c ∈ name.toList, isWordCharacter c = true := by
    intro c hc
    rcases h c hc with rfl | hword
    · rfl
    · simp [isWordCharacter, hword]
  rw [numbersOf_of_bare h.bare, numbersIn_word hword]

/-- A word of code that is no literal. -/
structure IsName (name : String) : Prop where
  unseparated : Unseparated name
  beginning : name.toList.head?.any Char.isDigit = false

instance (name : String) : Decidable (IsName name) :=
  decidable_of_iff (Unseparated name ∧ name.toList.head?.any Char.isDigit = false)
    ⟨fun h => ⟨h.1, h.2⟩, fun h => ⟨h.1, h.2⟩⟩

/-- Code that names no number where it is cut off from what stands around it. -/
def Numberless (part : String) : Prop := Bare part.toList ∧ numbersOf part = []

instance (part : String) : Decidable (Numberless part) := inferInstanceAs (Decidable (_ ∧ _))

lemma IsName.numberless (h : IsName name) : Numberless name := by
  refine ⟨h.unseparated.bare, ?_⟩
  rw [h.unseparated.numbersOf_eq, literal?_eq_none h.beginning]
  rfl

lemma unseparated_constant (n : ℕ) : Unseparated (constant n) := by
  by_cases hn : n ≤ 9
  · rw [constant, if_pos hn]
    exact unseparated_toString n
  · intro c hc
    rw [toList_constant_of_lt (Nat.lt_of_not_le hn), List.mem_cons, List.mem_cons, List.mem_reverse]
      at hc
    rcases hc with rfl | rfl | hc
    · exact .inr rfl
    · exact .inr rfl
    · refine (eq_or_mem_of_mem_groupDigits hc).imp_right fun hc => ?_
      have hall : lowercaseDigits.all (!Identifier.isSeparator ·) = true := by decide
      simpa using List.all_eq_true.1 hall c (mem_lowercaseDigits_of_mem (List.mem_reverse.1 hc))

lemma numbersOf_constant (n : ℕ) : numbersOf (constant n) = [n] := by
  rw [(unseparated_constant n).numbersOf_eq, literal?_constant]
  rfl

/-- A constant with a type behind it names the same number. -/
lemma numbersOf_typed_constant (n : ℕ) : numbersOf (constant n ++ "_u128") = [n] := by
  have hword : Unseparated (constant n ++ "_u128") := (unseparated_constant n).append (by decide)
  rw [hword.numbersOf_eq, String.toList_append, literal?_typed_constant]
  rfl

/-! ## Lines that are written -/

/-- What a generator fills in: words of code, and what stands in texts and comments. -/
structure Fillings where
  words : List String
  texts : List String

/-- Every word is a name, and no text ends the text or the comment that it stands in. -/
structure Fillings.Readable (f : Fillings) : Prop where
  words : ∀ name ∈ f.words, IsName name
  texts : ∀ name ∈ f.texts, Unescaped name.toList ∧ '\n' ∉ name.toList

/-- The literal of a number. -/
inductive Numeral (n : ℕ) : String → Prop
  | constant : Numeral n (Text.constant n)
  | decimal : Numeral n (toString n)
  /-- A constant with its type behind it. -/
  | typed : Numeral n (Text.constant n ++ "_u128")

/-- The line is put together from fixed pieces of code, names, texts and the literals of these
numbers, in this order.  It leads from one stretch to another; where a name or a literal ends, a piece
begins that cuts it off. -/
inductive Written (f : Fillings) : Stretch → Stretch → String → List ℕ → Prop
  | nil (s : Stretch) : Written f s s "" []
  /-- Code, with the numbers that stand in it whatever is filled in. -/
  | piece {s s' s'' : Stretch} {code l : String} {ms ns : List ℕ} (h : Shows s s' code ms)
      (rest : Written f s' s'' l ns) : Written f s s'' (code ++ l) (ms ++ ns)
  | word {s : Stretch} {name code l : String} {ns : List ℕ} (h : name ∈ f.words ∨ Numberless name)
      (hcut : Cuts code) (rest : Written f .code s (code ++ l) ns) :
      Written f .code s (name ++ (code ++ l)) ns
  | number {s : Stretch} {digits code l : String} {n : ℕ} {ns : List ℕ} (h : Numeral n digits)
      (hcut : Cuts code) (rest : Written f .code s (code ++ l) ns) :
      Written f .code s (digits ++ (code ++ l)) (n :: ns)
  /-- A text with its quotes, which shows what it likes. -/
  | quoted {s : Stretch} (name : String) {l : String} {ns : List ℕ} (rest : Written f .code s l ns) :
      Written f .code s (Text.quoted name ++ l) ns
  | text {s s' : Stretch} {name l : String} {ns : List ℕ} (hs : s = .text ∨ s = .comment)
      (h : name ∈ f.texts) (rest : Written f s s' l ns) : Written f s s' (name ++ l) ns
  /-- Code in which a comment begins. -/
  | opening {s : Stretch} {code l : String} {ns : List ℕ}
      (h : Stretch.code.after code.toList = .comment ∧ visibleFrom .code code.toList = [])
      (rest : Written f .comment s l ns) : Written f .code s (code ++ l) ns
  | comment {s : Stretch} {words l : String} {ns : List ℕ} (h : '\n' ∉ words.toList)
      (rest : Written f .comment s l ns) : Written f .comment s (words ++ l) ns

lemma visibleFrom_comment (ha : '\n' ∉ a) (rest : List Char) :
    visibleFrom .comment (a ++ rest) = visibleFrom .comment rest := by
  induction a with
  | nil => rfl
  | cons c a ih =>
    obtain ⟨hc, ha⟩ := not_or.1 (List.mem_cons.not.1 ha)
    rw [List.cons_append, visibleFrom, Stretch.step, if_neg (Ne.symm hc)]
    exact ih ha

lemma Numeral.numbersFrom_eq {digits code : String} (h : Numeral n digits) (hcut : Cuts code)
    (rest : List Char) : numbersFrom .code (digits.toList ++ (code.toList ++ rest)) =
      n :: numbersFrom .code (code.toList ++ rest) := by
  have hword : Unseparated digits := by
    cases h with
    | constant => exact unseparated_constant n
    | decimal => exact unseparated_toString n
    | typed => exact (unseparated_constant n).append (by decide)
  have hnumber : numbersOf digits = [n] := by
    cases h with
    | constant => exact numbersOf_constant n
    | decimal =>
      have hdigits : (toString n).toList = Nat.toDigits 10 n := Nat.toList_repr
      rw [hword.numbersOf_eq, hdigits, literal?_toDigits]
      rfl
    | typed => exact numbersOf_typed_constant n
  rw [numbersFrom_bare hword.bare hcut, hnumber]
  rfl

namespace Written

variable {f : Fillings} {s s' : Stretch} {l part : String} {ns ms : List ℕ}

/-- What is written is read, where names are names and texts are texts. -/
theorem numbersFrom_eq (hf : f.Readable) (h : Written f s s' l ns) (rest : List Char) :
    numbersFrom s (l.toList ++ rest) = ns ++ numbersFrom s' rest := by
  induction h with
  | nil s => rfl
  | piece h _ ih =>
    rw [String.toList_append, List.append_assoc, numbersFrom_shows h, ih, List.append_assoc]
  | word h hcut _ ih =>
    have hname := h.elim (fun h => (hf.words _ h).numberless) id
    rw [String.toList_append, String.toList_append, List.append_assoc, List.append_assoc,
      numbersFrom_bare hname.1 hcut, hname.2, List.nil_append, ← ih, String.toList_append,
      List.append_assoc]
  | number h hcut _ ih =>
    rw [String.toList_append, String.toList_append, List.append_assoc, List.append_assoc,
      h.numbersFrom_eq hcut, List.cons_append, ← ih, String.toList_append, List.append_assoc]
  | quoted name _ ih =>
    have hquotes : endsApart ['"', '"'] = true := rfl
    rw [String.toList_append, List.append_assoc, numbersFrom, visibleFrom_quoted, ← ih]
    exact numbersIn_of_endsApart hquotes _
  | text hs h _ ih =>
    obtain ⟨hquote, hline⟩ := hf.texts _ h
    rw [String.toList_append, List.append_assoc, numbersFrom]
    rcases hs with rfl | rfl
    · rw [visibleFrom_unescaped hquote]
      exact ih
    · rw [visibleFrom_comment hline]
      exact ih
  | opening h _ ih =>
    rw [String.toList_append, List.append_assoc, numbersFrom, visibleFrom_append, h.1, h.2]
    exact ih
  | comment h _ ih =>
    rw [String.toList_append, List.append_assoc, numbersFrom, visibleFrom_comment h]
    exact ih

/-- The last words of a comment. -/
lemma lastComment (h : '\n' ∉ part.toList) : Written f .comment .comment part [] := by
  have hline := Written.comment (f := f) h (.nil .comment)
  rwa [String.append_empty] at hline

/-- A piece of code without numbers. -/
lemma code (h : Shows .code .code part []) (rest : Written f .code s l ns) :
    Written f .code s (part ++ l) ns := .piece h rest

/-- A piece of code in which a text begins. -/
lemma openText (h : Shows .code .text part []) (rest : Written f .text s l ns) :
    Written f .code s (part ++ l) ns := .piece h rest

/-- A piece of code in which a text ends. -/
lemma closeText (h : Shows .text .code part []) (rest : Written f .code s l ns) :
    Written f .text s (part ++ l) ns := .piece h rest

/-- The last piece of a line. -/
lemma last (h : Shows s s' part ms) : Written f s s' part ms := by
  have hline := Written.piece (f := f) h (.nil s')
  rwa [String.append_empty, List.append_nil] at hline

end Written

/-! ## Parts of lines -/

/-- Code that may stand wherever a piece follows that cuts it off; it is written with the numbers. -/
structure Fills (f : Fillings) (part : String) (ns : List ℕ) : Prop where
  before : ∀ {s : Stretch} {code l : String} {ms : List ℕ}, Cuts code →
    Written f .code s (code ++ l) ms → Written f .code s (part ++ (code ++ l)) (ns ++ ms)

namespace Fills

variable {f : Fillings} {s : Stretch} {part part' code name : String} {ns ns' : List ℕ}

/-- Before the last piece of a line. -/
lemma beforeLast (h : Fills f part ns) (hcut : Cuts code) (hlast : Shows .code s code []) :
    Written f .code s (part ++ code) ns := by
  have hrest : Written f .code s (code ++ "") [] := by
    rw [String.append_empty]
    exact .last hlast
  have hline := h.before hcut hrest
  rwa [String.append_empty, List.append_nil] at hline

lemma word (h : name ∈ f.words) : Fills f name [] := ⟨fun hcut rest => .word (.inl h) hcut rest⟩

/-- A piece of code that is always the same. -/
lemma fixed (h : Numberless part) : Fills f part [] := ⟨fun hcut rest => .word (.inr h) hcut rest⟩

lemma numeral {n : ℕ} {digits : String} (h : Numeral n digits) : Fills f digits [n] :=
  ⟨fun hcut rest => .number h hcut rest⟩

/-- Two parts with a piece of code between them. -/
lemma between (h : Fills f part ns) (hcut : Cuts code) (hcode : Shows .code .code code [])
    (h' : Fills f part' ns') : Fills f (part ++ (code ++ part')) (ns ++ ns') := by
  refine ⟨fun hcut' rest => ?_⟩
  rw [String.append_assoc, String.append_assoc, List.append_assoc]
  exact h.before hcut (.code hcode (h'.before hcut' rest))

end Fills

/-! ## Lines -/

namespace Lines

variable {f : Fillings} {s s' : Stretch} {l first last : String} {ls ls' : Lines}
  {ns ns' ms : List ℕ}

/-- A line of code or of comment that names no number and in which nothing is filled in. -/
def Fixed (l : String) : Prop :=
  l = "" ∨ Shows .code .code l [] ∨
    (Stretch.code.after l.toList = .comment ∧ visibleFrom .code l.toList = [])

instance (l : String) : Decidable (Fixed l) := inferInstanceAs (Decidable (_ ∨ _ ∨ _))

/-- The lines are written with the numbers, each of them on its own. -/
inductive Written (f : Fillings) : Lines → List ℕ → Prop
  | nil : Written f [] []
  | cons {s : Stretch} {l : String} {ls : Lines} {ns ns' : List ℕ}
      (hl : RegisterMap.Written f .code s l ns) (h : Written f ls ns') :
      Written f (l :: ls) (ns ++ ns')

namespace Written

/-- What is written is read, where names are names and texts are texts. -/
theorem numbers_eq (hf : f.Readable) (h : Written f ls ns) : numbers ls = ns := by
  induction h with
  | nil => rfl
  | cons hl _ ih =>
    have hline := hl.numbersFrom_eq hf []
    rw [List.append_nil, numbersFrom_nil, List.append_nil] at hline
    rw [numbers, List.flatMap_cons, numbersOf, hline]
    exact congrArg (_ ++ ·) ih

lemma append (h : Written f ls ns) (h' : Written f ls' ns') : Written f (ls ++ ls') (ns ++ ns') := by
  induction h with
  | nil => exact h'
  | cons hl _ ih =>
    rw [List.cons_append, List.append_assoc]
    exact .cons hl ih

/-- Lines that are written under a condition. -/
lemma onlyIf {p : Prop} [Decidable p] (h : Written f ls ns) :
    Written f (Lines.onlyIf (decide p) ls) (if p then ns else []) := by
  by_cases hp : p
  · rwa [Lines.onlyIf, if_pos (decide_eq_true hp), if_pos hp]
  · rw [Lines.onlyIf, if_neg (by simpa using hp), if_neg hp]
    exact .nil

/-- A single line. -/
lemma line (hl : RegisterMap.Written f .code s l ns) : Written f [l] ns := by
  have hlines := Written.cons hl .nil
  rwa [List.append_nil] at hlines

lemma fixed (h : ∀ l ∈ ls, Fixed l) : Written f ls [] := by
  induction ls with
  | nil => exact .nil
  | cons l ls ih =>
    obtain ⟨hl, hls⟩ := List.forall_mem_cons.1 h
    rcases hl with rfl | hcode | hcomment
    · exact .cons (.nil .code) (ih hls)
    · exact .cons (.last hcode) (ih hls)
    · have hline := RegisterMap.Written.opening (f := f) hcomment (.nil .comment)
      rw [String.append_empty] at hline
      exact .cons hline (ih hls)

lemma indented (h : Written f ls ns) : Written f ls.indented ns := by
  have hspace : Shows .code .code "    " [] := by decide
  induction h with
  | nil => exact .nil
  | @cons s l _ ns _ hl _ ih =>
    have hline : RegisterMap.Written f .code s (if l.isEmpty then l else "    " ++ l) ns := by
      split
      · exact hl
      · exact .code hspace hl
    exact .cons hline ih

lemma group (hfirst : RegisterMap.Written f .code s first ns) (h : Written f ls ms)
    (hlast : RegisterMap.Written f .code s' last ns') :
    Written f (Lines.group first last ls) (ns ++ ms ++ ns') := by
  rw [List.append_assoc]
  exact .cons hfirst (h.indented.append (.line hlast))

/-- A line for each of some things, written with its own numbers. -/
lemma map {α : Type} {things : List α} {line : α → String} {numbers : α → List ℕ}
    (h : ∀ a ∈ things, RegisterMap.Written f .code .code (line a) (numbers a)) :
    Written f (things.map line) (things.flatMap numbers) := by
  induction things with
  | nil => exact .nil
  | cons a things ih =>
    obtain ⟨ha, hthings⟩ := List.forall_mem_cons.1 h
    rw [List.map_cons, List.flatMap_cons]
    exact .cons ha (ih hthings)

end Written

end Lines

end RegisterMap
