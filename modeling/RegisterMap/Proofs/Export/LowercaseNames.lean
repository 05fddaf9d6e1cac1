import Mathlib
import RegisterMap.Proofs.Export.Identifiers

/-!
# Names in lowercase words are settled

Accessors and modules are named in lowercase words, and some names go through this form twice: a
test module is named after accessors, which have it already.  Making lowercase words of such a name
again changes nothing.

What the form consists of is said about characters (`Settled`): no separators but single
underscores, nothing in uppercase, no digit at the beginning.  Lowercase words are settled whatever
the name was (`settled_words`), and the words of a settled name are the name itself
(`words_of_settled`).  The one thing left is the underscore behind a reserved word: it is dropped
with the underscores at the end, and comes back because what is left is the reserved word again.
Together this gives the main statement (`snakeCase_canonical`).
-/

namespace RegisterMap

namespace Identifier

variable {c : Char} {cs : List Char} {before : Option Char} {name : String}

/-! ## Characters -/

/-- A character in lowercase stays as it is, and is no uppercase letter. -/
lemma toLower_settled (c : Char) : c.toLower.toLower = c.toLower ∧ c.toLower.isUpper = false := by
  by_cases hascii : c.toNat < 128
  · exact forall_ascii (P := fun c => c.toLower.toLower = c.toLower ∧ c.toLower.isUpper = false)
      (by decide +kernel) hascii
  · rw [toLower_of_not_ascii hascii]
    refine ⟨toLower_of_not_ascii hascii, Bool.eq_false_iff.2 fun hupper => ?_⟩
    simp only [Char.isUpper, ge_iff_le, UInt32.le_iff_toNat_le, decide_eq_true_eq]
      at hupper
    have hhigh : c.toNat ≤ 'Z'.toNat := hupper.2
    exact hascii (Nat.lt_of_le_of_lt hhigh (by decide))

lemma isUpper_of_toLower_eq (hc : c.toLower = c) : c.isUpper = false :=
  hc ▸ (toLower_settled c).2

/-- The visible ASCII characters that separate no words are letters and digits. -/
lemma isLower_or_isDigit_toLower (hlow : ' ' ≤ c) (hhigh : c ≤ '~') (hc : isSeparator c = false) :
    c.toLower.isLower = true ∨ c.toLower.isDigit = true := by
  have hnat : c.toNat ≤ '~'.toNat := hhigh
  exact forall_ascii (P := fun c => ' ' ≤ c → c ≤ '~' → isSeparator c = false →
    c.toLower.isLower = true ∨ c.toLower.isDigit = true) (by decide +kernel)
    (Nat.lt_of_le_of_lt hnat (by decide)) hlow hhigh hc

/-- No digit comes from any other character. -/
lemma isDigit_toLower (c : Char) : c.toLower.isDigit = c.isDigit := by
  by_cases hascii : c.toNat < 128
  · exact forall_ascii (P := fun c => c.toLower.isDigit = c.isDigit) (by decide +kernel) hascii
  · rw [toLower_of_not_ascii hascii]

/-! ## Settled names -/

/-- Lowercase words with single underscores between them. -/
structure Settled (cs : List Char) : Prop where
  characters : ∀ c ∈ cs, c = '_' ∨ isSeparator c = false ∧ c.toLower = c
  single : cs.IsChain fun c d => c = '_' → d ≠ '_'
  beginning : cs.head?.any Char.isDigit = false

lemma Settled.of_isPrefix {cs' : List Char} (h : Settled cs) (hfront : cs' <+: cs) : Settled cs' where
  characters c hc := h.characters c (hfront.subset hc)
  single := h.single.prefix hfront
  beginning := by
    obtain ⟨rest, rfl⟩ := hfront
    have hbeginning := h.beginning
    cases cs' with
    | nil => rfl
    | cons c cs' => exact hbeginning

/-- An underscore behind a settled name, unless there is one already. -/
lemma Settled.append_underscore (h : Settled cs) (hlast : cs.getLast? ≠ some '_') (hnil : cs ≠ []) :
    Settled (cs ++ ['_']) where
  characters c hc := by
    rcases List.mem_append.1 hc with hc | hc
    · exact h.characters c hc
    · exact .inl (by simpa using hc)
  single := by
    refine List.isChain_append.2 ⟨h.single, List.isChain_singleton _, fun c hc d _ heq => ?_⟩
    exact absurd (heq ▸ hc) hlast
  beginning := by
    rw [List.head?_append_of_ne_nil _ hnil]
    exact h.beginning

/-! ## Words -/

/-- Between lowercase words stand single underscores, and none comes right behind a separator. -/
lemma single_underscored (before : Option Char) (cs : List Char) :
    (underscored before cs).IsChain (fun c d => c = '_' → d ≠ '_') ∧
      (before = some '_' → (underscored before cs).head? ≠ some '_') := by
  -- What is written for a separator depends on the character before, so that one is generalised.
  induction cs generalizing before with
  | nil => exact ⟨List.isChain_nil, fun _ => nofun⟩
  | cons c rest ih =>
    rw [underscored]
    split
    · obtain ⟨hchain, hhead⟩ := ih (some '_')
      by_cases hbefore : before = some '_'
      · rw [if_pos hbefore]
        exact ⟨hchain, fun _ => hhead rfl⟩
      · rw [if_neg hbefore]
        refine ⟨List.isChain_cons.2 ⟨fun d hd _ heq => hhead rfl (heq ▸ hd), hchain⟩, ?_⟩
        exact fun h => absurd h hbefore
    · next hword =>
      have hlower : c.toLower ≠ '_' := by
        intro heq
        have hseparator := (isSeparator_case (by simpa using hword : isSeparator c = false)).1
        rw [heq] at hseparator
        exact absurd hseparator (by decide)
      obtain ⟨hchain, -⟩ := ih (some c)
      have hwords : (c.toLower :: underscored (some c) rest).IsChain fun c d => c = '_' → d ≠ '_' :=
        List.isChain_cons.2 ⟨fun _ _ heq => absurd heq hlower, hchain⟩
      split
      · next hstep =>
        refine ⟨List.isChain_cons.2 ⟨fun d hd _ => ?_, hwords⟩, ?_⟩
        · have hd : c.toLower = d := by simpa using hd
          exact hd ▸ hlower
        · rintro rfl
          exact absurd hstep (by simp [Char.isLower])
      · refine ⟨hwords, fun _ heq => hlower ?_⟩
        simpa using heq

/-- A name begins with its first character in lowercase, or with the underscore that stands for
it. -/
lemma head?_underscored (c : Char) (rest : List Char) :
    (underscored none (c :: rest)).head? = some (if isSeparator c then '_' else c.toLower) := by
  rw [underscored]
  split
  · simp
  · simp

/-- An underscore is put before a digit only, and a digit is no underscore. -/
lemma digitGuard_cases (cs : List Char) :
    digitGuard cs = ['_'] ∧ (underscored none cs).head? ≠ some '_' ∨
      digitGuard cs = [] ∧ (underscored none cs).head?.any Char.isDigit = false := by
  cases cs with
  | nil => exact .inr ⟨rfl, rfl⟩
  | cons c rest =>
    rw [head?_underscored]
    by_cases hdigit : c.isDigit = true
    · have hword : isWord c = true := by simp [isWord, Char.isAlphanum, hdigit]
      have hne : ∀ d : Char, d.isDigit = true → d ≠ '_' := by
        rintro d hd rfl
        cases hd
      have hseparator : isSeparator c = false := by
        simpa [isSeparator_of_isWord hword] using hne c hdigit
      refine .inl ⟨by simp [digitGuard, hdigit], fun heq => ?_⟩
      rw [hseparator] at heq
      exact hne c.toLower ((isDigit_toLower c).trans hdigit) (Option.some.inj heq)
    · refine .inr ⟨by simp [digitGuard, hdigit], ?_⟩
      cases isSeparator c with
      | true => rfl
      | false =>
        have hlower := isDigit_toLower c
        rw [Bool.eq_false_iff.2 hdigit] at hlower
        exact hlower

/-- Lowercase words are settled. -/
theorem settled_words (cs : List Char) : Settled (digitGuard cs ++ underscored none cs) where
  characters c hc := by
    rcases List.mem_append.1 hc with hguard | hwords
    · exact .inl (eq_underscore_of_mem_digitGuard hguard)
    · rcases exists_of_mem_underscored hwords with heq | ⟨d, -, hd, rfl⟩
      · exact .inl heq
      · exact .inr ⟨(isSeparator_case hd).1, (toLower_settled d).1⟩
  single := by
    obtain ⟨hchain, -⟩ := single_underscored none cs
    rcases digitGuard_cases cs with ⟨hguard, hhead⟩ | ⟨hguard, -⟩ <;> rw [hguard]
    · exact List.isChain_cons.2 ⟨fun d hd _ heq => hhead (heq ▸ hd), hchain⟩
    · exact hchain
  beginning := by
    rcases digitGuard_cases cs with ⟨hguard, -⟩ | ⟨hguard, hhead⟩ <;> rw [hguard]
    · rfl
    · exact hhead

/-- The words of a settled name are the name, unless an underscore at its beginning is behind a
separator. -/
lemma underscored_of_settled (hcharacters : ∀ c ∈ cs, c = '_' ∨ isSeparator c = false ∧ c.toLower = c)
    (hchain : cs.IsChain fun c d => c = '_' → d ≠ '_')
    (hbefore : before = some '_' → cs.head? ≠ some '_') : underscored before cs = cs := by
  induction cs generalizing before with
  | nil => rfl
  | cons c rest ih =>
    obtain ⟨hhead, hrest⟩ := List.isChain_cons.1 hchain
    have hcharacters' := fun d hd => hcharacters d (List.mem_cons_of_mem c hd)
    have hwords : underscored (some c) rest = rest := by
      refine ih hcharacters' hrest fun hc heq => ?_
      exact hhead '_' heq (Option.some.inj hc) rfl
    rw [underscored]
    rcases hcharacters c List.mem_cons_self with rfl | ⟨hc, hlower⟩
    · have hother : before ≠ some '_' := fun heq => hbefore heq rfl
      rw [if_pos (by decide), if_neg hother, hwords]
      rfl
    · -- Nothing is in uppercase, so no underscore is put between two words here.
      have hupper := isUpper_of_toLower_eq hlower
      simp [hc, hlower, hupper, hwords]

/-- The words of a settled name are the name. -/
theorem words_of_settled (h : Settled cs) : digitGuard cs ++ underscored none cs = cs := by
  have hguard : digitGuard cs = [] := by simp [digitGuard, h.beginning]
  have hwords : underscored none cs = cs :=
    underscored_of_settled h.characters h.single fun hnone => by cases hnone
  rw [hguard, List.nil_append, hwords]

/-! ## Underscores at the end -/

lemma dropUnderscores_isPrefix (cs : List Char) : dropUnderscores cs <+: cs := by
  have hsuffix := List.dropWhile_suffix (l := cs.reverse) (· == '_')
  have hfront := List.reverse_prefix.2 hsuffix
  rwa [List.reverse_reverse] at hfront

lemma getLast?_dropUnderscores (cs : List Char) : (dropUnderscores cs).getLast? ≠ some '_' := by
  rw [dropUnderscores, List.getLast?_reverse]
  intro hhead
  have hkept := List.head?_dropWhile_not (· == '_') cs.reverse
  rw [hhead] at hkept
  cases hkept

lemma dropUnderscores_append_underscore (cs : List Char) :
    dropUnderscores (cs ++ ['_']) = dropUnderscores cs := by
  simp [dropUnderscores]

lemma dropUnderscores_of_getLast? (hlast : cs.getLast? ≠ some '_') : dropUnderscores cs = cs := by
  rw [dropUnderscores]
  rw [← List.head?_reverse] at hlast
  cases hcs : cs.reverse with
  | nil => simpa using hcs.symm
  | cons c rest =>
    rw [hcs] at hlast
    have hc : c ≠ '_' := fun heq => hlast (congrArg some heq)
    rw [List.dropWhile_cons_of_neg (by simpa using hc), ← hcs, List.reverse_reverse]

/-! ## Canonical names -/

/-- A settled name in lowercase words is the name without the underscores at its end, which is an
underscore if nothing is left and has one more if it is a reserved word. -/
lemma snakeCase_of_settled (h : Settled name.toList) : snakeCase name =
    match dropUnderscores name.toList with
    | [] => "_"
    | cs => avoidKeyword (String.ofList cs) :=
  congrArg (fun cs : List Char => match dropUnderscores cs with
    | [] => "_"
    | cs => avoidKeyword (String.ofList cs)) (words_of_settled h)

/-- The characters of a name in lowercase words are settled, and without the underscores at their end
they make the same name again. -/
lemma snakeCase_cases (name : String) : snakeCase name = "_" ∨
    ∃ cs, cs ≠ [] ∧ Settled cs ∧ cs.getLast? ≠ some '_' ∧
      snakeCase name = avoidKeyword (String.ofList cs) := by
  unfold snakeCase
  have hsettled := (settled_words name.toList).of_isPrefix (dropUnderscores_isPrefix _)
  have hlast := getLast?_dropUnderscores (digitGuard name.toList ++ underscored none name.toList)
  generalize dropUnderscores _ = cs at hsettled hlast ⊢
  cases cs with
  | nil => exact .inl rfl
  | cons c rest => exact .inr ⟨c :: rest, List.cons_ne_nil c rest, hsettled, hlast, rfl⟩

/-- A name in lowercase words is settled. -/
theorem settled_snakeCase (name : String) : Settled (snakeCase name).toList := by
  rcases snakeCase_cases name with heq | ⟨cs, hnil, hsettled, hlast, heq⟩ <;> rw [heq]
  · have hlist : "_".toList = ['_'] := rfl
    rw [hlist]
    exact ⟨by simp, List.isChain_singleton _, rfl⟩
  · rcases avoidKeyword_eq (String.ofList cs) with heq | ⟨-, heq⟩ <;> rw [heq]
    · rwa [String.toList_ofList]
    · rw [String.toList_append, String.toList_ofList]
      exact hsettled.append_underscore hlast hnil

/-- Lowercase words of a name in lowercase words are the name. -/
theorem snakeCase_snakeCase (name : String) : snakeCase (snakeCase name) = snakeCase name := by
  rw [snakeCase_of_settled (settled_snakeCase name)]
  rcases snakeCase_cases name with heq | ⟨cs, hnil, -, hlast, heq⟩ <;> rw [heq]
  · rfl
  · -- The underscore behind a reserved word goes, and what is left is the reserved word again.
    have hdrop : dropUnderscores (avoidKeyword (String.ofList cs)).toList = cs := by
      rcases avoidKeyword_eq (String.ofList cs) with heq | ⟨-, heq⟩ <;> rw [heq]
      · rw [String.toList_ofList, dropUnderscores_of_getLast? hlast]
      · rw [String.toList_append, String.toList_ofList]
        exact (dropUnderscores_append_underscore cs).trans (dropUnderscores_of_getLast? hlast)
    rw [hdrop]
    cases cs with
    | nil => exact absurd rfl hnil
    | cons c rest => rfl

/-- A name of visible ASCII characters and spaces has lowercase words of letters, digits and
underscores. -/
lemma isLower_of_mem_snakeCase (hname : ∀ d ∈ name.toList, ' ' ≤ d ∧ d ≤ '~')
    (hc : c ∈ (snakeCase name).toList) : c.isLower = true ∨ c.isDigit = true ∨ c = '_' := by
  rcases exists_of_mem_snakeCase hc with heq | ⟨d, hd, hword, rfl⟩
  · exact .inr (.inr heq)
  · obtain ⟨hlow, hhigh⟩ := hname d hd
    rcases isLower_or_isDigit_toLower hlow hhigh hword with hlower | hdigit
    · exact .inl hlower
    · exact .inr (.inl hdigit)

/-- Lowercase words are a canonical form: making them twice is making them once.  They do not begin
with a digit, have no two underscores in a row and are no reserved word; and of visible ASCII
characters and spaces, nothing but lowercase letters, digits and underscores is left. -/
theorem snakeCase_canonical (name : String) :
    snakeCase (snakeCase name) = snakeCase name ∧
      (snakeCase name).toList.head?.any Char.isDigit = false ∧
      ¬ ['_', '_'] <:+: (snakeCase name).toList ∧
      snakeCase name ∉ keywords ∧
      ((∀ c ∈ name.toList, ' ' ≤ c ∧ c ≤ '~') →
        ∀ c ∈ (snakeCase name).toList, c.isLower = true ∨ c.isDigit = true ∨ c = '_') := by
  have hsettled := settled_snakeCase name
  refine ⟨snakeCase_snakeCase name, hsettled.beginning, fun hinfix => ?_, snakeCase_notMem name,
    fun hname c hc => isLower_of_mem_snakeCase hname hc⟩
  have hpair := hsettled.single.infix hinfix
  simp at hpair

/-- The separators at the end are dropped, and the underscore of a reserved word comes back. -/
theorem reserved_word_is_settled : (∀ c ∈ "Type - ".toList, ' ' ≤ c ∧ c ≤ '~') ∧
    snakeCase "Type - " = "type_" ∧ snakeCase "type_" = "type_" ∧
      ∀ c ∈ "type_".toList, c.isLower = true ∨ c.isDigit = true ∨ c = '_' := by
  have hname : ∀ c ∈ "Type - ".toList, ' ' ≤ c ∧ c ≤ '~' := by simp
  have hwords : snakeCase "Type - " = "type_" := by decide +kernel
  obtain ⟨htwice, -, -, -, hcharacters⟩ := snakeCase_canonical "Type - "
  rw [hwords] at htwice hcharacters
  exact ⟨hname, hwords, htwice, hcharacters hname⟩

end Identifier

end RegisterMap
