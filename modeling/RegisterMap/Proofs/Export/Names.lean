import Mathlib
import RegisterMap.Export.Shape
import RegisterMap.Proofs.Export.Identifiers

/-!
# Accessor names

The accessor names in one generated type are different from one another and from the names that the
type keeps for itself (`freshNames_nodup`, `freshNames_disjoint`), and each has the fewest
underscores after it with which that is so (`isFresh_freshNames`).  No separator occurs in them, so
code shows where a name ends.
-/

namespace RegisterMap

/-! ## Fresh names -/

lemma appendUnderscores_not_mem {taken : List String} {fuel : ℕ} {name : String}
    (hfuel : (taken.filter fun t => name.length ≤ t.length).length ≤ fuel) :
    appendUnderscores taken fuel name ∉ taken := by
  induction fuel generalizing name with
  | zero =>
    intro hmem
    have hnil := List.length_eq_zero_iff.1 (Nat.le_zero.1 hfuel)
    have hlong : name ∈ taken.filter fun t => name.length ≤ t.length :=
      List.mem_filter.2 ⟨hmem, by simp⟩
    rw [hnil] at hlong
    cases hlong
  | succ fuel ih =>
    rw [appendUnderscores]
    split
    · next htaken =>
      -- the name itself is not among those that are as long as the next one
      refine ih (Nat.le_of_lt_succ (Nat.lt_of_lt_of_le ?_ hfuel))
      have hmem : name ∈ taken := by simpa using htaken
      have hsub : taken.filter (fun t => (name ++ "_").length ≤ t.length) =
          (taken.filter fun t => name.length ≤ t.length).filter
            fun t => (name ++ "_").length ≤ t.length := by
        rw [List.filter_filter]
        refine List.filter_congr fun t _ => ?_
        rw [Bool.eq_iff_iff, Bool.and_eq_true, decide_eq_true_iff, decide_eq_true_iff,
          String.length_append]
        omega
      rw [hsub]
      refine List.length_filter_lt_length_iff_exists.2 ⟨name, ?_, ?_⟩
      · exact List.mem_filter.2 ⟨hmem, by simp⟩
      · simp [String.length_append]
    · next hfree => simpa using hfree

lemma freshName_not_mem (taken : List String) (name : String) : freshName taken name ∉ taken :=
  appendUnderscores_not_mem (List.length_filter_le _ _)

/-- Fresh names avoid the names that are taken. -/
theorem freshNames_disjoint {taken names : List String} {name : String}
    (hname : name ∈ freshNames taken names) : name ∉ taken := by
  induction names generalizing taken with
  | nil => cases hname
  | cons n rest ih =>
    rw [freshNames] at hname
    rcases List.mem_cons.1 hname with rfl | hname
    · exact freshName_not_mem _ _
    · exact fun hmem => ih hname (List.mem_cons_of_mem _ hmem)

/-- Fresh names differ from one another. -/
theorem freshNames_nodup (taken names : List String) : (freshNames taken names).Nodup := by
  induction names generalizing taken with
  | nil => exact List.nodup_nil
  | cons n rest ih =>
    rw [freshNames, List.nodup_cons]
    exact ⟨fun hmem => freshNames_disjoint hmem List.mem_cons_self, ih _⟩

/-! ## Fewest underscores -/

/-- A name with so many underscores after it. -/
def withUnderscores (name : String) (count : ℕ) : String :=
  name ++ String.ofList (List.replicate count '_')

/-- The name is the base with the fewest underscores after it that is not taken. -/
def IsFresh (taken : List String) (base name : String) : Prop :=
  ∃ count, name = withUnderscores base count ∧ name ∉ taken ∧
    ∀ fewer < count, withUnderscores base fewer ∈ taken

lemma withUnderscores_zero (name : String) : withUnderscores name 0 = name := String.append_empty

lemma withUnderscores_succ (name : String) (count : ℕ) :
    withUnderscores name (count + 1) = withUnderscores (name ++ "_") count := by
  refine String.toList_injective ?_
  simp [withUnderscores, List.replicate_succ]

lemma exists_withUnderscores (taken : List String) (fuel : ℕ) (name : String) :
    ∃ count, appendUnderscores taken fuel name = withUnderscores name count ∧
      ∀ fewer < count, withUnderscores name fewer ∈ taken := by
  induction fuel generalizing name with
  | zero => exact ⟨0, (withUnderscores_zero name).symm, nofun⟩
  | succ fuel ih =>
    rw [appendUnderscores]
    split
    · next htaken =>
      obtain ⟨count, heq, hfewer⟩ := ih (name ++ "_")
      refine ⟨count + 1, by rw [heq, withUnderscores_succ], fun fewer hlt => ?_⟩
      cases fewer with
      | zero => simpa [withUnderscores_zero] using htaken
      | succ fewer =>
        rw [withUnderscores_succ]
        exact hfewer fewer (Nat.lt_of_succ_lt_succ hlt)
    · exact ⟨0, (withUnderscores_zero name).symm, nofun⟩

lemma isFresh_freshName (taken : List String) (name : String) :
    IsFresh taken name (freshName taken name) := by
  obtain ⟨count, heq, hfewer⟩ := exists_withUnderscores taken taken.length name
  exact ⟨count, heq, freshName_not_mem taken name, hfewer⟩

/-- A fresh name is its base with underscores after it. -/
lemma forall₂_freshNames (taken names : List String) :
    List.Forall₂ (fun base name => ∃ count, name = withUnderscores base count) names
      (freshNames taken names) := by
  induction names generalizing taken with
  | nil => exact .nil
  | cons name rest ih =>
    obtain ⟨count, heq, -⟩ := exists_withUnderscores taken taken.length name
    exact .cons ⟨count, heq⟩ (ih _)

/-- Only which names are taken matters, not their order. -/
lemma IsFresh.congr {taken taken' : List String} {base name : String} (h : IsFresh taken base name)
    (heq : ∀ s, s ∈ taken ↔ s ∈ taken') : IsFresh taken' base name := by
  obtain ⟨count, hname, hfree, hfewer⟩ := h
  exact ⟨count, hname, fun hmem => hfree ((heq _).2 hmem), fun fewer hlt =>
    (heq _).1 (hfewer fewer hlt)⟩

/-- Each of the fresh names has the fewest underscores with which it is neither taken nor one of
those before it. -/
theorem isFresh_freshNames (taken names : List String) (i : ℕ)
    (hi : i < (freshNames taken names).length)
    (hi' : i < names.length) :
    IsFresh (taken ++ (freshNames taken names).take i) names[i] (freshNames taken names)[i] := by
  induction names generalizing taken i with
  | nil => cases hi'
  | cons name rest ih =>
    cases i with
    | zero => simpa [freshNames] using isFresh_freshName taken name
    | succ i =>
      have hrest := ih (freshName taken name :: taken) i (by simpa [freshNames] using hi)
        (Nat.lt_of_succ_lt_succ hi')
      refine (hrest.congr fun s => ?_)
      simp [freshNames, or_left_comm]

/-! ## Characters -/

/-- Besides underscores, no separator occurs in the name. -/
def Unseparated (name : String) : Prop :=
  ∀ c ∈ name.toList, c = '_' ∨ Identifier.isSeparator c = false

instance (name : String) : Decidable (Unseparated name) := List.decidableBAll _ _

lemma Unseparated.append {name suffix : String} (hname : Unseparated name)
    (hsuffix : Unseparated suffix) : Unseparated (name ++ suffix) := by
  intro c hc
  rw [String.toList_append, List.mem_append] at hc
  exact hc.elim (hname c) (hsuffix c)

lemma unseparated_underscore : Unseparated "_" := by
  intro c hc
  exact .inl (by simpa using hc)

lemma unseparated_toString (n : ℕ) : Unseparated (toString n) := by
  intro c hc
  have hdigits : (toString n).toList = Nat.toDigits 10 n := Nat.toList_repr
  rw [hdigits] at hc
  have hdigit : c.isDigit = true := Nat.isDigit_of_mem_toDigits (by decide) (by decide) hc
  have hword : Identifier.isWord c = true := by simp [Identifier.isWord, Char.isAlphanum, hdigit]
  rw [Identifier.isSeparator_of_isWord hword]
  simpa using em (c = '_')

/-- A separator other than the underscore does not occur. -/
lemma Unseparated.notMem {name : String} (hname : Unseparated name) {c : Char}
    (hc : Identifier.isSeparator c = true) (hne : c ≠ '_') : c ∉ name.toList := by
  intro hmem
  rcases hname c hmem with rfl | hword
  · exact hne rfl
  · rw [hc] at hword
    cases hword

/-- What holds of names and is kept when an underscore is appended holds of the names that are made
fresh from them. -/
lemma forall_mem_freshNames {P : String → Prop} (hunderscore : ∀ name, P name → P (name ++ "_"))
    {taken names : List String} (hnames : ∀ name ∈ names, P name) {name : String}
    (hname : name ∈ freshNames taken names) : P name := by
  have happended : ∀ taken fuel name, P name → P (appendUnderscores taken fuel name) := by
    intro taken fuel
    induction fuel with
    | zero => exact fun _ hname => hname
    | succ fuel ih =>
      intro name hname
      rw [appendUnderscores]
      split
      · exact ih _ (hunderscore name hname)
      · exact hname
  induction names generalizing taken with
  | nil => cases hname
  | cons n rest ih =>
    rw [freshNames] at hname
    rcases List.mem_cons.1 hname with rfl | hname
    · exact happended taken taken.length n (hnames n List.mem_cons_self)
    · exact ih (fun m hm => hnames m (List.mem_cons_of_mem _ hm)) hname

lemma unseparated_freshNames {taken names : List String}
    (hnames : ∀ name ∈ names, Unseparated name) {name : String}
    (hname : name ∈ freshNames taken names) : Unseparated name :=
  forall_mem_freshNames (fun _ h => h.append unseparated_underscore) hnames hname

lemma unseparated_snakeCase (name : String) : Unseparated (Identifier.snakeCase name) :=
  fun _ hc => Identifier.eq_or_of_mem_snakeCase hc

lemma unseparated_camelCase (name : String) : Unseparated (Identifier.camelCase name) :=
  fun _ hc => Identifier.eq_or_of_mem_camelCase hc

/-- No parenthesis is opened in the name. -/
def Unparenthesized (name : String) : Prop := ∀ c ∈ name.toList, c ≠ '('

lemma Unseparated.unparenthesized {name : String} (hname : Unseparated name) :
    Unparenthesized name := by
  rintro c hc rfl
  exact hname.notMem (by decide) (by decide) hc

/-! ## Accessors -/

lemma length_freshNames (taken names : List String) :
    (freshNames taken names).length = names.length := by
  induction names generalizing taken with
  | nil => rfl
  | cons name rest ih => simp [freshNames, ih]

@[simp] lemma length_accessorNames (kind : NodeKind) (children : List Node) :
    (accessorNames kind children).length = children.length := by
  rw [accessorNames, length_freshNames, List.length_map]

/-- Every child gets an accessor name. -/
lemma map_fst_zip_accessorNames (kind : NodeKind) (children : List Place) :
    (children.zip (accessorNames kind (children.map (·.node)))).map Prod.fst = children :=
  List.map_fst_zip (by simp)

/-- No accessor name holds a separator besides underscores. -/
theorem unseparated_accessorNames {kind : NodeKind} {children : List Node} {name : String}
    (hname : name ∈ accessorNames kind children) : Unseparated name := by
  refine unseparated_freshNames (fun base hbase => ?_) hname
  obtain ⟨n, -, rfl⟩ := List.mem_map.1 hbase
  exact unseparated_snakeCase _

/-- No accessor name holds a parenthesis. -/
theorem unparenthesized_accessorNames {kind : NodeKind} {children : List Node} {name : String}
    (hname : name ∈ accessorNames kind children) : Unparenthesized name :=
  (unseparated_accessorNames hname).unparenthesized

end RegisterMap
