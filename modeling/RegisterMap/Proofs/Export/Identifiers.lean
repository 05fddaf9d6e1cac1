import Mathlib
import RegisterMap.Export.Identifier

/-!
# What identifiers are made of

No separator of the name is left in an identifier: besides underscores, accessors, modules and types
are made of the characters of the name that separate no words, in one case or the other
(`eq_or_of_mem_snakeCase`, `eq_or_of_mem_camelCase`).  And no identifier is a reserved word
(`avoidKeyword_notMem`).

A name in capitalized words has one underscore at most besides that of a reserved word, before a
digit at the beginning of the name.  Whether the name begins with a digit is looked at before its
separators are dropped, so a digit behind an underscore comes to stand at the beginning of the
identifier, and nothing is left of a name of underscores alone.  With that the legal identifiers of
words are told from the others (`camelCase_legal_iff`).
-/

namespace RegisterMap

namespace Identifier

variable {c : Char} {cs : List Char} {name : String}

/-! ## Characters -/

/-- What holds of the first 128 characters holds of every ASCII character. -/
lemma forall_ascii {P : Char → Prop} (h : ∀ n < 128, P (Char.ofNat n)) (hc : c.toNat < 128) :
    P c := by
  have hchar := h c.toNat hc
  rwa [Char.ofNat_toNat] at hchar

/-- Beyond ASCII, characters have one case. -/
lemma toLower_of_not_ascii (hc : ¬ c.toNat < 128) : c.toLower = c := by
  unfold Char.toLower
  rw [dif_neg]
  rintro ⟨-, hhigh⟩
  have hnat : c.toNat ≤ 90 := hhigh
  omega

lemma toUpper_of_not_ascii (hc : ¬ c.toNat < 128) : c.toUpper = c := by
  unfold Char.toUpper
  rw [dif_neg]
  rintro ⟨-, hhigh⟩
  have hnat : c.toNat ≤ 122 := hhigh
  omega

/-- A separator is the case of no other character. -/
lemma isSeparator_case (hc : isSeparator c = false) :
    isSeparator c.toLower = false ∧ isSeparator c.toUpper = false := by
  by_cases hascii : c.toNat < 128
  · exact forall_ascii (P := fun c => isSeparator c = false →
      isSeparator c.toLower = false ∧ isSeparator c.toUpper = false) (by decide +kernel) hascii hc
  · rw [toLower_of_not_ascii hascii, toUpper_of_not_ascii hascii]
    exact ⟨hc, hc⟩

/-! ## Reserved words -/

/-- No reserved word ends with an underscore. -/
lemma underscored_keyword {keyword : String} (hkeyword : keyword ∈ keywords) :
    keyword ≠ "" ∧ keyword ++ "_" ∉ keywords := by
  have hall : ∀ keyword ∈ keywords, keyword ≠ "" ∧ keyword ++ "_" ∉ keywords := by decide +kernel
  exact hall keyword hkeyword

/-- No identifier is a reserved word. -/
theorem avoidKeyword_notMem (name : String) : avoidKeyword name ∉ keywords := by
  unfold avoidKeyword
  split
  · next hkeyword => exact (underscored_keyword (by simpa using hkeyword)).2
  · next hother => simpa using hother

/-- An underscore is all that is added to a name. -/
lemma avoidKeyword_eq (name : String) :
    avoidKeyword name = name ∨ name ∈ keywords ∧ avoidKeyword name = name ++ "_" := by
  unfold avoidKeyword
  split
  · next hkeyword => exact .inr ⟨by simpa using hkeyword, rfl⟩
  · exact .inl rfl

lemma eq_or_mem_of_mem_avoidKeyword (hc : c ∈ (avoidKeyword name).toList) :
    c = '_' ∨ c ∈ name.toList := by
  rcases avoidKeyword_eq name with heq | ⟨-, heq⟩
  · exact .inr (heq ▸ hc)
  · rw [heq, String.toList_append, List.mem_append] at hc
    rcases hc with hc | hc
    · exact .inr hc
    · exact .inl (by simpa using hc)

lemma eq_underscore_of_mem_digitGuard (hc : c ∈ digitGuard cs) : c = '_' := by
  unfold digitGuard at hc
  split at hc
  · simpa using hc
  · cases hc

/-! ## Lowercase words -/

/-- Besides underscores, lowercase words are made of the characters that separate no words. -/
lemma exists_of_mem_underscored {before : Option Char} (hc : c ∈ underscored before cs) :
    c = '_' ∨ ∃ d ∈ cs, isSeparator d = false ∧ c = d.toLower := by
  induction cs generalizing before with
  | nil => cases hc
  | cons d rest ih =>
    have hrest {before : Option Char} (hc : c ∈ underscored before rest) :
        c = '_' ∨ ∃ e ∈ d :: rest, isSeparator e = false ∧ c = e.toLower := by
      rcases ih hc with heq | ⟨e, he, hword, heq⟩
      · exact .inl heq
      · exact .inr ⟨e, List.mem_cons_of_mem d he, hword, heq⟩
    rw [underscored] at hc
    split at hc
    · rcases List.mem_append.1 hc with hc | hc
      · refine .inl ?_
        split at hc <;> simp_all
      · exact hrest hc
    · next hword =>
      rcases List.mem_append.1 hc with hc | hc
      · refine .inl ?_
        split at hc <;> simp_all
      · rcases List.mem_cons.1 hc with heq | hc
        · exact .inr ⟨d, List.mem_cons_self, by simpa using hword, heq⟩
        · exact hrest hc

lemma mem_of_mem_dropUnderscores (hc : c ∈ dropUnderscores cs) : c ∈ cs := by
  unfold dropUnderscores at hc
  have hsub := List.dropWhile_subset (fun c => c == '_') (List.mem_reverse.1 hc)
  exact List.mem_reverse.1 hsub

lemma exists_of_mem_snakeCase (hc : c ∈ (snakeCase name).toList) :
    c = '_' ∨ ∃ d ∈ name.toList, isSeparator d = false ∧ c = d.toLower := by
  unfold snakeCase at hc
  generalize hcs :
    dropUnderscores (digitGuard name.toList ++ underscored none name.toList) = cs at hc
  cases cs with
  | nil => exact .inl (by simpa using hc)
  | cons d rest =>
    rcases eq_or_mem_of_mem_avoidKeyword hc with rfl | hc
    · exact .inl rfl
    · rw [String.toList_ofList, ← hcs] at hc
      rcases List.mem_append.1 (mem_of_mem_dropUnderscores hc) with hguard | hwords
      · exact .inl (eq_underscore_of_mem_digitGuard hguard)
      · exact exists_of_mem_underscored hwords

/-- A name in lowercase words holds no separator but underscores. -/
theorem eq_or_of_mem_snakeCase (hc : c ∈ (snakeCase name).toList) :
    c = '_' ∨ isSeparator c = false := by
  rcases exists_of_mem_snakeCase hc with heq | ⟨d, -, hd, rfl⟩
  · exact .inl heq
  · exact .inr (isSeparator_case hd).1

/-- A name in lowercase words is no reserved word. -/
theorem snakeCase_notMem (name : String) : snakeCase name ∉ keywords := by
  unfold snakeCase
  split
  · simp [keywords]
  · exact avoidKeyword_notMem _

/-! ## Capitalized words -/

lemma isSeparator_of_mem_capitalized {first : Bool} (hc : c ∈ capitalized first cs) :
    isSeparator c = false := by
  induction cs generalizing first with
  | nil => cases hc
  | cons d rest ih =>
    rw [capitalized] at hc
    split at hc
    · exact ih hc
    · next hword =>
      have hd : isSeparator d = false := by simpa using hword
      rcases List.mem_cons.1 hc with rfl | hc
      · split
        · exact (isSeparator_case hd).2
        · exact (isSeparator_case hd).1
      · exact ih hc

/-- A name in capitalized words holds no separator but underscores. -/
theorem eq_or_of_mem_camelCase (hc : c ∈ (camelCase name).toList) :
    c = '_' ∨ isSeparator c = false := by
  unfold camelCase at hc
  rcases eq_or_mem_of_mem_avoidKeyword hc with rfl | hc
  · exact .inl rfl
  · rw [String.toList_ofList] at hc
    rcases List.mem_append.1 hc with hguard | hwords
    · exact .inl (eq_underscore_of_mem_digitGuard hguard)
    · exact .inr (isSeparator_of_mem_capitalized hwords)

/-- A name in capitalized words begins with its first character that separates no words. -/
lemma head?_capitalized (cs : List Char) :
    (capitalized true cs).head? = (cs.find? fun c => !isSeparator c).map Char.toUpper := by
  induction cs with
  | nil => rfl
  | cons c rest ih =>
    rw [capitalized]
    by_cases hc : isSeparator c <;> simp [hc, ih]

lemma head?_avoidKeyword (name : String) :
    (avoidKeyword name).toList.head? = name.toList.head? := by
  rcases avoidKeyword_eq name with heq | ⟨hkeyword, heq⟩
  · rw [heq]
  · have hne : name.toList ≠ [] := by simpa using (underscored_keyword hkeyword).1
    rw [heq, String.toList_append, List.head?_append_of_ne_nil _ hne]

/-- An underscore comes before a name that begins with a digit; any other name begins with its first
character that separates no words. -/
lemma head?_camelCase (name : String) : (camelCase name).toList.head? =
    if name.toList.head?.any Char.isDigit then some '_'
    else (name.toList.find? fun c => !isSeparator c).map Char.toUpper := by
  unfold camelCase digitGuard
  rw [head?_avoidKeyword, String.toList_ofList]
  split
  · rfl
  · rw [List.nil_append, head?_capitalized]

/-! ## Words -/

/-- ASCII letters, digits and the underscore, of which registers and fields are named. -/
def isWord (c : Char) : Bool := c.isAlphanum || c == '_'

lemma toNat_lt_of_isWord (hc : isWord c = true) : c.toNat < 128 := by
  simp only [isWord, Char.isAlphanum, Char.isAlpha, Char.isUpper, Char.isLower, Char.isDigit,
    Bool.or_eq_true, Bool.and_eq_true, decide_eq_true_eq, beq_iff_eq, ge_iff_le,
    UInt32.le_iff_toNat_le] at hc
  rcases hc with ((⟨-, hc⟩ | ⟨-, hc⟩) | ⟨-, hc⟩) | rfl
  · exact Nat.lt_of_le_of_lt hc (by decide)
  · exact Nat.lt_of_le_of_lt hc (by decide)
  · exact Nat.lt_of_le_of_lt hc (by decide)
  · decide

lemma isSeparator_of_isWord (hc : isWord c = true) : isSeparator c = (c == '_') :=
  forall_ascii (P := fun c => isWord c = true → isSeparator c = (c == '_')) (by decide +kernel)
    (toNat_lt_of_isWord hc) hc

/-- The case of a letter or digit tells nothing of what it is. -/
lemma isWord_of_case (hc : isWord c = true) (hne : c ≠ '_') :
    (c.toUpper.isAlphanum = true ∧ c.toUpper.isDigit = !c.isAlpha) ∧ c.toLower.isAlphanum = true :=
  forall_ascii (P := fun c => isWord c = true → c ≠ '_' →
      (c.toUpper.isAlphanum = true ∧ c.toUpper.isDigit = !c.isAlpha) ∧ c.toLower.isAlphanum = true)
    (by decide +kernel) (toNat_lt_of_isWord hc) hc hne

/-- Words are capitalized to letters and digits. -/
lemma isAlphanum_of_mem_capitalized {first : Bool} (hcs : ∀ d ∈ cs, isWord d = true)
    (hc : c ∈ capitalized first cs) : c.isAlphanum = true := by
  induction cs generalizing first with
  | nil => cases hc
  | cons d rest ih =>
    have hd := hcs d List.mem_cons_self
    have hrest := fun e he => hcs e (List.mem_cons_of_mem d he)
    rw [capitalized, isSeparator_of_isWord hd] at hc
    split at hc
    · exact ih hrest hc
    · next hne =>
      obtain ⟨⟨hupper, -⟩, hlower⟩ := isWord_of_case hd (by simpa using hne)
      rcases List.mem_cons.1 hc with rfl | hc
      · split
        · exact hupper
        · exact hlower
      · exact ih hrest hc

/-! ## Legal identifiers -/

/-- An identifier that the generated language accepts. -/
structure Legal (identifier : String) : Prop where
  nonempty : identifier ≠ ""
  beginning : identifier.toList.head?.any Char.isDigit = false
  characters : ∀ c ∈ identifier.toList, isWord c = true
  named : identifier ≠ "_"
  unreserved : identifier ∉ keywords

lemma isWord_of_mem_camelCase (hname : ∀ d ∈ name.toList, isWord d = true)
    (hc : c ∈ (camelCase name).toList) : isWord c = true := by
  unfold camelCase at hc
  rcases eq_or_mem_of_mem_avoidKeyword hc with rfl | hc
  · decide
  · rw [String.toList_ofList] at hc
    rcases List.mem_append.1 hc with hguard | hwords
    · rw [eq_underscore_of_mem_digitGuard hguard]
      decide
    · simp [isWord, isAlphanum_of_mem_capitalized hname hwords]

/-- The underscore before a digit does not stay alone. -/
lemma digitGuard_append_ne (cs : List Char) : digitGuard cs ++ capitalized true cs ≠ ['_'] := by
  intro hlist
  unfold digitGuard at hlist
  split at hlist
  · next hdigit =>
    obtain ⟨d, hhead, hd⟩ := (Option.any_eq_true _ _).1 hdigit
    have hnil : capitalized true cs = [] := (List.cons.inj hlist).2
    have hnone : (cs.find? fun c => !isSeparator c) = none := by
      rw [← Option.map_eq_none_iff, ← head?_capitalized, hnil]
      rfl
    have hword : isWord d = true := by simp [isWord, Char.isAlphanum, hd]
    have hne : d ≠ '_' := by
      rintro rfl
      cases hd
    refine List.find?_eq_none.1 hnone d (List.mem_of_head? hhead) ?_
    simp [isSeparator_of_isWord hword, hne]
  · have hunderscore : '_' ∈ capitalized true cs := by
      rw [List.nil_append] at hlist
      simp [hlist]
    exact absurd (isSeparator_of_mem_capitalized hunderscore) (by decide)

lemma camelCase_ne_underscore (name : String) : camelCase name ≠ "_" := by
  intro heq
  unfold camelCase at heq
  rcases avoidKeyword_eq (String.ofList (digitGuard name.toList ++ capitalized true name.toList))
    with hkept | ⟨hkeyword, hadded⟩
  · rw [hkept] at heq
    have hlist := congrArg String.toList heq
    rw [String.toList_ofList] at hlist
    exact digitGuard_append_ne _ hlist
  · rw [hadded] at heq
    exact (underscored_keyword hkeyword).1 (String.append_eq_right_iff.1 heq)

/-- In capitalized words, a name of ASCII letters, digits and underscores has no other characters,
and is neither a lone underscore nor a reserved word.  It is a legal identifier exactly if the name
begins with a digit, or if its first character besides underscores is a letter. -/
theorem camelCase_legal_iff (hname : ∀ c ∈ name.toList, isWord c = true) :
    (∀ c ∈ (camelCase name).toList, isWord c = true) ∧ camelCase name ≠ "_" ∧
      camelCase name ∉ keywords ∧
    (Legal (camelCase name) ↔ name.toList.head?.any Char.isDigit = true ∨
      (name.toList.find? (· != '_')).any Char.isAlpha = true) := by
  have hcharacters : ∀ c ∈ (camelCase name).toList, isWord c = true := fun _ =>
    isWord_of_mem_camelCase hname
  have hnamed := camelCase_ne_underscore name
  have hunreserved : camelCase name ∉ keywords := avoidKeyword_notMem _
  -- what is left to ask is whether there is a first character that is no digit
  have hlegal : Legal (camelCase name) ↔ ∃ c, (camelCase name).toList.head? = some c ∧
      c.isDigit = false := by
    constructor
    · intro h
      have hnil : (camelCase name).toList ≠ [] := by simpa using h.nonempty
      obtain ⟨c, hc⟩ := Option.isSome_iff_exists.1 (List.isSome_head?.2 hnil)
      have hbeginning := h.beginning
      rw [hc] at hbeginning
      exact ⟨c, hc, hbeginning⟩
    · rintro ⟨c, hc, hdigit⟩
      refine ⟨?_, ?_, hcharacters, hnamed, hunreserved⟩
      · intro hempty
        rw [hempty] at hc
        cases hc
      · rw [hc]
        exact hdigit
  have hfirst : (name.toList.find? fun c => !isSeparator c) = name.toList.find? (· != '_') := by
    refine List.find?_congr fun c hc => ?_
    rw [isSeparator_of_isWord (hname c hc)]
    rfl
  refine ⟨hcharacters, hnamed, hunreserved, ?_⟩
  rw [hlegal, head?_camelCase, hfirst]
  by_cases hdigit : name.toList.head?.any Char.isDigit = true
  · simp [hdigit]
  · cases hfound : name.toList.find? (· != '_') with
    | none => simp [hdigit]
    | some c =>
      have hc := List.find?_some hfound
      have hcase := isWord_of_case (hname c (List.mem_of_find?_eq_some hfound)) (by simpa using hc)
      simp [hdigit, hcase.1.2]

/-- Where a letter follows, the underscores of a name are missed in no identifier, not even in one
that would be a reserved word. -/
theorem letter_behind_underscores_leads : (∀ c ∈ "__self".toList, isWord c = true) ∧
    camelCase "__self" = "Self_" ∧ Legal (camelCase "__self") := by
  have hname : ∀ c ∈ "__self".toList, isWord c = true :=
    List.all_eq_true.1 (by decide +kernel)
  obtain ⟨-, -, -, hlegal⟩ := camelCase_legal_iff hname
  exact ⟨hname, by decide +kernel, hlegal.2 (.inr (by decide +kernel))⟩

/-- A digit behind an underscore comes to stand first, and of a lone underscore nothing is left. -/
theorem digit_behind_underscore_leads : (∀ c ∈ "_0".toList, isWord c = true) ∧
    camelCase "_0" = "0" ∧ ¬ Legal (camelCase "_0") ∧ camelCase "_" = "" := by
  have hzero : camelCase "_0" = "0" := by decide +kernel
  refine ⟨List.all_eq_true.1 (by decide +kernel), hzero, fun hlegal => ?_, by decide +kernel⟩
  have hbeginning := hlegal.beginning
  rw [hzero] at hbeginning
  cases hbeginning

end Identifier

end RegisterMap
