import Mathlib
import RegisterMap.Proofs.Export.TypeNames

/-!
# The members of generated enumerations

Every entry of an enumeration becomes a member, under the identifier that is made from its name, or
under that identifier with the value of the entry after it where the identifier is in use.  Whether
the second identifier is in use as well is not looked at.  So the members are different exactly if
no entry comes whose two identifiers were both used for earlier entries
(`Enumeration.variants_distinct`).

That can only happen through an entry with the same identifier and the same value, or through one
whose name gives an identifier with a value at its end: an identifier with a value can be split in
one way (`valued_injective`).
-/

namespace RegisterMap

/-! ## Identifiers with values -/

/-- The identifier of a member with its value as a distinction. -/
def valued (m : String × ℕ) : String := m.1 ++ "V" ++ toString m.2

lemma toList_valued (m : String × ℕ) :
    (valued m).toList = m.1.toList ++ 'V' :: (toString m.2).toList := by
  simp [valued, String.toList_append]

lemma notMem_toString (n : ℕ) : 'V' ∉ (toString n).toList := by
  intro hmem
  change 'V' ∈ n.repr.toList at hmem
  rw [Nat.toList_repr] at hmem
  have hdigit := Nat.isDigit_of_mem_toDigits (by decide) (by decide) hmem
  cases hdigit

/-- An identifier with a value at its end tells both. -/
theorem valued_injective : Function.Injective valued := by
  intro m m' h
  have hlist := congrArg String.toList h
  rw [toList_valued, toList_valued, append_cons_inj_of_notMem_right (notMem_toString _)
    (notMem_toString _), String.toList_inj, String.toList_inj] at hlist
  exact Prod.ext hlist.1 (Nat.repr_injective hlist.2)

/-! ## Members one after the other -/

variable {taken : List String} {m : String × ℕ} {ms : List (String × ℕ)}

@[simp] lemma length_distinctVariants (taken : List String) (ms : List (String × ℕ)) :
    (distinctVariants taken ms).length = ms.length := by
  induction ms generalizing taken with
  | nil => rfl
  | cons m rest ih =>
    obtain ⟨identifier, value⟩ := m
    rw [distinctVariants, List.length_cons, List.length_cons, ih]

/-- The identifier of the next member. -/
def nextVariant (taken : List String) (m : String × ℕ) : String :=
  if m.1 ∈ taken then valued m else m.1

lemma distinctVariants_cons (taken : List String) (m : String × ℕ) (ms : List (String × ℕ)) :
    distinctVariants taken (m :: ms) =
      nextVariant taken m :: distinctVariants (nextVariant taken m :: taken) ms := by
  obtain ⟨identifier, value⟩ := m
  rw [distinctVariants]
  simp only [nextVariant, valued, List.contains_iff_mem]

lemma nextVariant_notMem_iff : nextVariant taken m ∉ taken ↔ (m.1 ∈ taken → valued m ∉ taken) := by
  unfold nextVariant
  split <;> simp_all

/-- No member comes whose two identifiers are both in use. -/
def Clear (taken : List String) (ms : List (String × ℕ)) : Prop :=
  ∀ before m after, ms = before ++ m :: after → m.1 ∈ distinctVariants taken before ++ taken →
    valued m ∉ distinctVariants taken before ++ taken

/-- The first member comes with what is in use, and all others come after it. -/
lemma clear_cons_iff : Clear taken (m :: ms) ↔
    (m.1 ∈ taken → valued m ∉ taken) ∧ Clear (nextVariant taken m :: taken) ms := by
  have hperm : ∀ before s, s ∈ distinctVariants taken (m :: before) ++ taken ↔
      s ∈ distinctVariants (nextVariant taken m :: taken) before ++
        nextVariant taken m :: taken := by
    intro before s
    rw [distinctVariants_cons, List.cons_append, List.mem_cons, List.mem_append, List.mem_append,
      List.mem_cons, or_left_comm]
  constructor
  · intro h
    refine ⟨h [] m ms rfl, fun before m' after hsplit => ?_⟩
    rw [← hperm, ← hperm]
    exact h (m :: before) m' after (by rw [hsplit, List.cons_append])
  · rintro ⟨hfirst, hrest⟩ before m' after hsplit
    cases before with
    | nil =>
      obtain ⟨rfl, rfl⟩ := List.cons.inj hsplit
      exact hfirst
    | cons b before =>
      obtain ⟨rfl, htail⟩ := List.cons.inj hsplit
      rw [hperm, hperm]
      exact hrest before m' after htail

/-- The members are different from one another and from what is in use exactly if none comes whose
two identifiers are both in use. -/
theorem distinctVariants_iff_clear : (distinctVariants taken ms).Nodup ∧
    (∀ s ∈ distinctVariants taken ms, s ∉ taken) ↔ Clear taken ms := by
  induction ms generalizing taken with
  | nil =>
    refine ⟨fun _ before m after hsplit => ?_, fun _ => ⟨List.nodup_nil, nofun⟩⟩
    simp at hsplit
  | cons m rest ih =>
    rw [clear_cons_iff, ← ih, ← nextVariant_notMem_iff, distinctVariants_cons, List.nodup_cons,
      List.forall_mem_cons]
    constructor
    · rintro ⟨⟨hnew, hnodup⟩, hfresh, hrest⟩
      refine ⟨hfresh, hnodup, fun s hs => ?_⟩
      rw [List.mem_cons, not_or]
      exact ⟨fun heq => hnew (heq ▸ hs), hrest s hs⟩
    · rintro ⟨hfresh, hnodup, hrest⟩
      exact ⟨⟨fun hmem => hrest _ hmem List.mem_cons_self, hnodup⟩, hfresh,
        fun s hs => fun hmem => hrest s hs (List.mem_cons_of_mem _ hmem)⟩

/-- Every member goes by one of its two identifiers. -/
lemma exists_of_mem_distinctVariants {s : String} (hs : s ∈ distinctVariants taken ms) :
    ∃ m ∈ ms, s = m.1 ∨ s = valued m := by
  induction ms generalizing taken with
  | nil => cases hs
  | cons m rest ih =>
    rw [distinctVariants_cons] at hs
    rcases List.mem_cons.1 hs with rfl | hs
    · refine ⟨m, List.mem_cons_self, ?_⟩
      unfold nextVariant
      split
      · exact .inr rfl
      · exact .inl rfl
    · obtain ⟨m', hm', hform⟩ := ih hs
      exact ⟨m', List.mem_cons_of_mem _ hm', hform⟩

/-- Members are clear if no two have the same identifier and value, and none has an identifier that
is that of another one with its value. -/
lemma clear_of_nodup (hnodup : ms.Nodup) (hvalued : ∀ m ∈ ms, ∀ m' ∈ ms, m.1 ≠ valued m') :
    Clear [] ms := by
  rintro before m after rfl - hmem
  rw [List.append_nil] at hmem
  have hm : m ∈ before ++ m :: after := List.mem_append_right _ List.mem_cons_self
  obtain ⟨m', hm', hform⟩ := exists_of_mem_distinctVariants hmem
  rcases hform with hform | hform
  · exact hvalued m' (List.mem_append_left _ hm') m hm hform.symm
  · rw [← valued_injective hform] at hm'
    exact (List.nodup_append.1 hnodup).2.2 m hm' m List.mem_cons_self rfl

/-! ## Enumerations -/

namespace Enumeration

/-- The identifier of an entry by its name, with its value. -/
def member (entry : EnumEntry) : String × ℕ := (Identifier.camelCase entry.name, entry.value)

lemma variants_eq (e : Enumeration) : e.variants = distinctVariants [] (e.entries.map member) := rfl

/-- The members are different exactly if no entry comes whose identifiers, without and with its
value, are both in use. -/
lemma variants_nodup_iff_clear (e : Enumeration) :
    e.variants.Nodup ↔ Clear [] (e.entries.map member) := by
  rw [← distinctVariants_iff_clear, variants_eq]
  exact ⟨fun h => ⟨h, fun _ _ => List.not_mem_nil⟩, fun h => h.1⟩

/-- Every entry of an enumeration has a member.  The members are different exactly if no entry comes
whose identifiers, without and with its value, are both those of earlier members.  They are
different if no two entries have the same identifier and the same value and no identifier is that of
an entry with its value. -/
theorem variants_distinct (e : Enumeration) : e.variants.length = e.entries.length ∧
    (e.variants.Nodup ↔ ∀ before entry after, e.entries = before ++ entry :: after →
      Identifier.camelCase entry.name ∈ variants ⟨e.name, before⟩ →
        valued (member entry) ∉ variants ⟨e.name, before⟩) ∧
    ((e.entries.map member).Nodup → (∀ entry ∈ e.entries, ∀ other ∈ e.entries,
      Identifier.camelCase entry.name ≠ valued (member other)) → e.variants.Nodup) := by
  have hlength : e.variants.length = e.entries.length := by
    rw [variants_eq, length_distinctVariants, List.length_map]
  refine ⟨hlength, ?_, fun hnodup hvalued => ?_⟩
  · rw [variants_nodup_iff_clear]
    constructor
    · intro h before entry after hsplit
      have hstep := h (before.map member) (member entry) (after.map member) (by
        rw [hsplit, List.map_append, List.map_cons])
      rwa [List.append_nil] at hstep
    · intro h before m after hsplit
      obtain ⟨before, rest, hentries, rfl, hrest⟩ := List.map_eq_append_iff.1 hsplit
      obtain ⟨entry, after, rfl, rfl, rfl⟩ := List.map_eq_cons_iff.1 hrest
      rw [List.append_nil]
      exact h before entry after hentries
  · refine e.variants_nodup_iff_clear.2 (clear_of_nodup hnodup ?_)
    simp only [List.forall_mem_map]
    exact hvalued

/-- Two entries whose names give one identifier. -/
def sameNames : Enumeration := .ofPairs "e" [(0, "a"), (1, "A")]

/-- Entries whose names give one identifier are told apart by their values. -/
theorem members_told_by_value : (sameNames.entries.map member).Nodup ∧
    (∀ entry ∈ sameNames.entries, ∀ other ∈ sameNames.entries,
      Identifier.camelCase entry.name ≠ valued (member other)) ∧
    sameNames.variants = ["A", "AV1"] ∧ sameNames.variants.Nodup := by
  have hnodup : (sameNames.entries.map member).Nodup := by decide +kernel
  have hvalued : ∀ entry ∈ sameNames.entries, ∀ other ∈ sameNames.entries,
      Identifier.camelCase entry.name ≠ valued (member other) := by decide +kernel
  obtain ⟨-, -, hdistinct⟩ := variants_distinct sameNames
  exact ⟨hnodup, hvalued, by decide +kernel, hdistinct hnodup hvalued⟩

/-- Entries of which the first one is called like the last one with its value. -/
def takenForm : Enumeration := .ofPairs "e" [(0, "a_v1"), (2, "a"), (1, "A")]

/-- An address map of one register, with a field of that enumeration. -/
def takenFormDescription : Description :=
  .group .addressMap "top" 0 [.register "r" 0 [.mk { (default : Attributes) with
    kind := .field, instName := "f", lsb := some 0, msb := some 3,
    encoding := some ⟨takenForm, none⟩ } []]]

/-- The first and the last member of the enumeration of a loaded and planned tree are one. -/
theorem taken_form_clashes : takenFormDescription.tree.Loaded ∧
    (∃ plan ∈ Export.usualPlan takenFormDescription.tree,
      plan.enums.map (·.encoding.enumeration) = [takenForm]) ∧
    takenForm.variants = ["AV1", "A", "AV1"] := by
  refine ⟨Description.loaded_tree ?_, ?_, ?_⟩
  all_goals decide +kernel

end Enumeration

end RegisterMap
