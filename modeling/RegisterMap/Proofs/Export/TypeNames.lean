import Mathlib
import RegisterMap.Proofs.Export.Closure
import RegisterMap.Proofs.Export.Decided

/-!
# What a type name tells

A type name ends with the digits of the hash, after the last underscore of the name, so the name
tells the hash up to its sign (`className_eq_className_iff`).  The sign is told by the mark `neg`
before the digits, but a definition may be called so that its name ends with the mark itself: two
different hashes have one type name exactly if they are opposite and the definition of the positive
one is called like that of the negative one, followed by `_neg` (`className_eq_iff_opposite`).

The identifiers in use are kept with the names that they were made from (`Walk.Registered`).  So the
types and the enumerations of a plan that have one identifier have one name, and their hashes are
the same or opposite (`Export.names_tell_hashes`).
-/

namespace RegisterMap

/-! ## Digits -/

namespace Text

lemma hexDigit_injective {n m : ℕ} (hn : n < 16) (hm : m < 16) (h : hexDigit n = hexDigit m) :
    n = m := by
  have hall : ∀ i < 16, ∀ j < 16, hexDigit i = hexDigit j → i = j := by decide
  exact hall n hn m hm h

lemma hexDigit_ne_underscore {n : ℕ} (hn : n < 16) : hexDigit n ≠ '_' := by
  have hall : ∀ i < 16, hexDigit i ≠ '_' := by decide
  exact hall n hn

lemma hexDigits_of_lt {n : ℕ} (hn : n < 16) : hexDigits n = [hexDigit n] := by
  rw [hexDigits, if_pos hn]

lemma hexDigits_of_not_lt {n : ℕ} (hn : ¬ n < 16) :
    hexDigits n = hexDigits (n / 16) ++ [hexDigit (n % 16)] := by
  rw [hexDigits, if_neg hn]

lemma underscore_notMem_hexDigits (n : ℕ) : '_' ∉ hexDigits n := by
  induction n using hexDigits.induct with
  | case1 n hn =>
    rw [hexDigits_of_lt hn, List.mem_singleton]
    exact (hexDigit_ne_underscore hn).symm
  | case2 n hn ih =>
    rw [hexDigits_of_not_lt hn, List.mem_append, List.mem_singleton, not_or]
    exact ⟨ih, (hexDigit_ne_underscore (Nat.mod_lt n (by decide))).symm⟩

lemma hexDigits_ne_nil (n : ℕ) : hexDigits n ≠ [] := by
  rw [hexDigits]
  split <;> simp

/-- A number below 16 and a larger one differ in the number of their digits. -/
lemma hexDigits_ne {n m : ℕ} (hn : n < 16) (hm : ¬ m < 16) : hexDigits n ≠ hexDigits m := by
  intro h
  rw [hexDigits_of_lt hn, hexDigits_of_not_lt hm, ← List.nil_append [hexDigit n]] at h
  exact hexDigits_ne_nil _ (List.append_inj' h rfl).1.symm

theorem hexDigits_injective : Function.Injective hexDigits := by
  intro n
  induction n using hexDigits.induct with
  | case1 n hn =>
    intro m h
    by_cases hm : m < 16
    · rw [hexDigits_of_lt hn, hexDigits_of_lt hm] at h
      exact hexDigit_injective hn hm (List.cons.inj h).1
    · exact absurd h (hexDigits_ne hn hm)
  | case2 n hn ih =>
    intro m h
    by_cases hm : m < 16
    · exact absurd h.symm (hexDigits_ne hm hn)
    · rw [hexDigits_of_not_lt hn, hexDigits_of_not_lt hm] at h
      obtain ⟨hfront, hlast⟩ := List.append_inj' h rfl
      have hdiv := ih hfront
      have hmod := hexDigit_injective (Nat.mod_lt n (by decide)) (Nat.mod_lt m (by decide))
        (List.cons.inj hlast).1
      rw [← Nat.div_add_mod n 16, ← Nat.div_add_mod m 16, hdiv, hmod]

end Text

/-! ## Names -/

/-- The part of a type name that stands for the definition: its scope and its name. -/
def qualifiedName (scope : Option String) (typeName : String) : String :=
  if scope.getD "" = "" then typeName
  else String.ofList (flattenScope (scope.getD "").toList) ++ "_" ++ typeName

/-- The part of a type name before the last underscore: the name of the definition, marked if the
hash is negative. -/
def markedName (qualified : String) (hash : ℤ) : String :=
  if hash < 0 then qualified ++ "_neg" else qualified

variable {s s' : Option String} {n n' : String} {h h' : ℤ}

lemma className_eq_qualifiedName (s : Option String) (n : String) (h : ℤ) :
    className s n h = qualifiedName s n ++ "_" ++ hashDigits h := by
  unfold className qualifiedName
  split
  · simp
  · simp
  · next scope hscope =>
    simp [show scope ≠ "" from hscope, String.append_assoc]

lemma toList_className (s : Option String) (n : String) (h : ℤ) : (className s n h).toList =
    (markedName (qualifiedName s n) h).toList ++ '_' :: Text.hexDigits h.natAbs := by
  rw [className_eq_qualifiedName]
  unfold hashDigits markedName
  split <;> simp [String.toList_append]

/-- What stands before and after the last occurrence of an element is told by the whole. -/
lemma append_cons_inj_of_notMem_right {α : Type} {x x' z z' : List α} {a : α} (hz : a ∉ z)
    (hz' : a ∉ z') : x ++ a :: z = x' ++ a :: z' ↔ x = x' ∧ z = z' := by
  constructor
  · intro heq
    rcases List.append_eq_append_iff.1 heq with ⟨y, rfl, hy⟩ | ⟨y, rfl, hy⟩
    · cases y with
      | nil => exact ⟨(List.append_nil _).symm, (List.cons.inj hy).2⟩
      | cons b rest =>
        rw [(List.cons.inj hy).2] at hz
        exact absurd (List.mem_append_right _ List.mem_cons_self) hz
    · cases y with
      | nil => exact ⟨List.append_nil _, (List.cons.inj hy).2.symm⟩
      | cons b rest =>
        rw [(List.cons.inj hy).2] at hz'
        exact absurd (List.mem_append_right _ List.mem_cons_self) hz'
  · rintro ⟨rfl, rfl⟩
    rfl

/-- A type name tells the hash without its sign, and what stands before the digits. -/
theorem className_eq_className_iff : className s n h = className s' n' h' ↔
    markedName (qualifiedName s n) h = markedName (qualifiedName s' n') h' ∧
      h.natAbs = h'.natAbs := by
  rw [← String.toList_inj, toList_className, toList_className, append_cons_inj_of_notMem_right
    (Text.underscore_notMem_hexDigits _) (Text.underscore_notMem_hexDigits _),
    Text.hexDigits_injective.eq_iff, String.toList_inj]

/-- The hashes are opposite, and the definition of the positive one is called like that of the
negative one, followed by the mark of negative hashes. -/
structure NamedOpposite (negative : String) (h : ℤ) (positive : String) (h' : ℤ) : Prop where
  isNegative : h < 0
  hash : h' = -h
  name : positive = negative ++ "_neg"

/-- Different hashes have one type name exactly if they are opposite, where one definition is called
like the other one with the mark of negative hashes. -/
theorem className_eq_iff_opposite (hne : h ≠ h') : className s n h = className s' n' h' ↔
    NamedOpposite (qualifiedName s n) h (qualifiedName s' n') h' ∨
      NamedOpposite (qualifiedName s' n') h' (qualifiedName s n) h := by
  rw [className_eq_className_iff]
  unfold markedName
  constructor
  · rintro ⟨hname, habs⟩
    have hopposite : h' = -h := by omega
    by_cases hneg : h < 0
    · rw [if_pos hneg, if_neg (by omega)] at hname
      exact .inl ⟨hneg, hopposite, hname.symm⟩
    · rw [if_neg hneg, if_pos (by omega)] at hname
      exact .inr ⟨by omega, by omega, hname⟩
  · rintro (⟨hneg, rfl, hname⟩ | ⟨hneg, rfl, hname⟩)
    · rw [if_pos hneg, if_neg (by omega), hname]
      exact ⟨rfl, by omega⟩
    · rw [if_pos hneg, if_neg (by omega), hname]
      exact ⟨rfl, by omega⟩

/-! ## Identifiers -/

/-- A type or an enumeration of the plan has this hash, this name and this identifier. -/
inductive Plan.Names (plan : Plan) : ℤ → String → String → Prop
  | type {r : TypeRecord} (hr : r ∈ plan.records) : Names plan r.hash r.name r.identifier
  | enum {r : EnumRecord} (hr : r ∈ plan.enums) : Names plan r.hash r.name r.identifier

/-- Identifiers stay in use for the names that they were made from. -/
def Identifiers.Stay (ids ids' : Identifiers) : Prop :=
  ∀ identifier name, ids.lookup identifier = some name → ids'.lookup identifier = some name

lemma Identifiers.register_eq_ok {ids ids' : Identifiers} {name identifier : String}
    (h : ids.register name = .ok (identifier, ids')) :
    identifier = Identifier.camelCase name ∧ ids'.lookup identifier = some name ∧
      ids.Stay ids' := by
  unfold Identifiers.register at h
  dsimp only at h
  split at h
  · next hnone =>
    cases h
    refine ⟨rfl, List.lookup_cons_self, fun other first hlookup => ?_⟩
    have hne : other ≠ Identifier.camelCase name := by
      rintro rfl
      rw [hnone] at hlookup
      cases hlookup
    rw [List.lookup_cons, beq_eq_false_iff_ne.2 hne]
    exact hlookup
  · next first hfirst =>
    split at h
    · next heq =>
      cases h
      exact ⟨rfl, heq ▸ hfirst, fun _ _ hlookup => hlookup⟩
    · cases h

namespace Walk

variable {m : Type → Type} [Monad m] [MonadExceptOf ExportFault m] {L : Outcomes m} {w w' : Walk}
  {hasher : Hasher} {t : RegisterTree}

/-- The names of the plan are type names with their hashes, and their identifiers are made from them
and in use for them. -/
def Registered (w : Walk) : Prop := ∀ hash name identifier, w.plan.Names hash name identifier →
  w.identifiers.lookup identifier = some name ∧ identifier = Identifier.camelCase name ∧
    ∃ s n, name = className s n hash

/-- Notes about nodes leave the names alone. -/
lemma Registered.of_eq (hw : w.Registered) (hrecords : w'.plan.records = w.plan.records)
    (henums : w'.plan.enums = w.plan.enums) (hstay : w.identifiers.Stay w'.identifiers) :
    w'.Registered := by
  intro hash name identifier hname
  have hbefore : w.plan.Names hash name identifier := by
    cases hname with
    | type hr => exact .type (hrecords ▸ hr)
    | enum hr => exact .enum (henums ▸ hr)
  obtain ⟨hlookup, hform⟩ := hw _ _ _ hbefore
  exact ⟨hstay _ _ hlookup, hform⟩

/-- A registered name takes its identifier, and all others stay. -/
lemma ends_register_lookup (name : String) : Ends L (register name : Walking m String) w
    fun identifier w' => w'.plan = w.plan ∧ identifier = Identifier.camelCase name ∧
      w'.identifiers.lookup identifier = some name ∧ w.identifiers.Stay w'.identifiers := by
  unfold register
  refine Ends.bind (Ends.get (P := fun a w' => w = a ∧ w = w') ⟨rfl, rfl⟩) ?_
  rintro _ _ ⟨rfl, rfl⟩
  split
  · exact Ends.throw
  · next identifier ids hids =>
    have hregistered := Identifiers.register_eq_ok hids
    refine Ends.bind (Ends.modify (P := fun _ w' => w' = { w with identifiers := ids }) rfl) ?_
    rintro _ _ rfl
    exact Ends.pure ⟨rfl, hregistered⟩

lemma registered_addEnum (field : ℕ) (scope : Option String) (e : FieldEncoding)
    (hw : w.Registered) :
    Ends L (addEnum hasher field scope e : Walking m Unit) w fun _ w' => w'.Registered := by
  unfold addEnum change
  refine Ends.bind (Ends.modify (P := fun _ w' => w'.Registered)
    (hw.of_eq rfl rfl fun _ _ h => h)) fun _ w₁ hw₁ => ?_
  refine Ends.bind (Ends.get (P := fun a w' => w' = w₁) rfl) ?_
  rintro a _ rfl
  split
  · exact Ends.pure hw₁
  · refine Ends.bind (ends_register_lookup _) fun identifier w₂ h₂ => Ends.modify ?_
    obtain ⟨hplan, hidentifier, hlookup, hstay⟩ := h₂
    have hw₂ : w₂.Registered := hw₁.of_eq (by rw [hplan]) (by rw [hplan]) hstay
    intro hash name _ hname
    cases hname with
    | type hr => exact hw₂ _ _ _ (.type hr)
    | enum hr =>
      rcases List.mem_append.1 hr with hr | hr
      · exact hw₂ _ _ _ (.enum hr)
      · rw [List.mem_singleton.1 hr]
        exact ⟨hlookup, hidentifier, _, _, rfl⟩

lemma registered_addType (p : Place) (hash : ℤ) (hw : w.Registered) :
    Ends L (addType hasher t p hash : Walking m Bool) w fun _ w' => w'.Registered := by
  unfold addType change
  refine Ends.bind (Ends.modify (P := fun _ w' => w'.Registered)
    (hw.of_eq rfl rfl fun _ _ h => h)) fun _ w₁ hw₁ => ?_
  extract_lets decideType
  have hdecide : ∀ w₂, w₂.Registered → Ends L (decideType ()) w₂ fun _ w' => w'.Registered := by
    intro w₂ hw₂
    refine Ends.bind (Ends.get (P := fun a w' => w' = w₂) rfl) ?_
    rintro a _ rfl
    split
    · split
      · exact Ends.pure hw₂
      · exact Ends.throw
    · refine Ends.bind (ends_register_lookup _) fun identifier w₃ h₃ => ?_
      obtain ⟨hplan, hidentifier, hlookup, hstay⟩ := h₃
      have hw₃ : w₃.Registered := hw₂.of_eq (by rw [hplan]) (by rw [hplan]) hstay
      refine Ends.bind (Ends.modify (P := fun _ w' => w'.Registered) ?_) fun _ _ h => Ends.pure h
      intro hash name _ hname
      cases hname with
      | enum hr => exact hw₃ _ _ _ (.enum hr)
      | type hr =>
        rcases List.mem_cons.1 hr with rfl | hr
        · exact ⟨hlookup, hidentifier, _, _, rfl⟩
        · exact hw₃ _ _ _ (.type hr)
  split
  · exact Ends.bind (registered_addEnum _ _ _ hw₁) fun _ w₂ hw₂ => hdecide w₂ hw₂
  · exact hdecide w₁ hw₁

end Walk

/-- The names of a finished plan are registered. -/
lemma Screen.registered_of_eq_ok {hidden : Screen} {hasher : Hasher} {t : RegisterTree}
    {plan : Plan} (ht : t.Loaded) (hplan : hidden.plan hasher t = .ok plan) :
    ∃ w : Walk, w.plan = plan ∧ w.Registered := by
  obtain ⟨w, rfl, hrun⟩ := exists_walk_of_plan hplan
  have hbegin : Walk.Registered {} := by
    intro hash name identifier hname
    cases hname with
    | type hr => cases hr
    | enum hr => cases hr
  exact ⟨w, rfl, Walk.ends_visit_of_steps (facts ht)
    (fun p w _ _ hw => hw.of_eq rfl rfl fun _ _ h => h)
    (fun p hash w _ hw => Walk.registered_addType p hash hw)
    (fun p children w hw => hw.of_eq rfl rfl fun _ _ h => h) (mem_places_self _) hbegin _ hrun⟩

/-- The identifiers of types and enumerations are made from their names. -/
lemma Screen.identifier_eq {hidden : Screen} {hasher : Hasher} {t : RegisterTree} {plan : Plan}
    (ht : t.Loaded) (hplan : hidden.plan hasher t = .ok plan) {name identifier : String}
    (hname : plan.Names h name identifier) : identifier = Identifier.camelCase name := by
  obtain ⟨w, rfl, hw⟩ := registered_of_eq_ok ht hplan
  exact (hw _ _ _ hname).2.1

/-- Types and enumerations of one identifier have one name. -/
lemma Screen.name_of_identifier {hidden : Screen} {hasher : Hasher} {t : RegisterTree} {plan : Plan}
    (ht : t.Loaded) (hplan : hidden.plan hasher t = .ok plan) {name name' identifier : String}
    (hname : plan.Names h name identifier) (hname' : plan.Names h' name' identifier) :
    name = name' ∧ ∃ s n s' n', name = className s n h ∧ name' = className s' n' h' := by
  obtain ⟨w, rfl, hw⟩ := registered_of_eq_ok ht hplan
  obtain ⟨hlookup, -, s, n, hform⟩ := hw _ _ _ hname
  obtain ⟨hlookup', -, s', n', hform'⟩ := hw _ _ _ hname'
  exact ⟨Option.some.inj (hlookup.symm.trans hlookup'), s, n, s', n', hform, hform'⟩

/-- Two type names with different hashes are the same exactly if the hashes are opposite and one
definition is called like the other one with the mark of negative hashes.  So the identifiers of a
plan tell its hashes but for the sign: an identifier that two hashes have is made from one name, and
the hashes are opposite. -/
theorem Export.names_tell_hashes (hne : h ≠ h') :
    (∀ (s s' : Option String) (n n' : String), className s n h = className s' n' h' ↔
      NamedOpposite (qualifiedName s n) h (qualifiedName s' n') h' ∨
        NamedOpposite (qualifiedName s' n') h' (qualifiedName s n) h) ∧
    ∀ {σ : Type} (e : Export σ) (s : σ) (plan : Plan) (memory : ExportMemory σ), e.tree.Loaded →
      e.plan.run (.empty s) = (.ok plan, memory) →
      ∀ name name' identifier, plan.Names h name identifier → plan.Names h' name' identifier →
        h' = -h ∧ name = name' := by
  refine ⟨fun s s' n n' => className_eq_iff_opposite hne, ?_⟩
  intro σ e s plan memory ht hrun name name' identifier hname hname'
  have hplan := plan_eq_ok ht hrun (HideAnswers.Stays.refl _)
  obtain ⟨heq, s, n, s', n', rfl, rfl⟩ := Screen.name_of_identifier ht hplan hname hname'
  have habs := (className_eq_className_iff.1 heq).2
  exact ⟨by omega, heq⟩

/-- The types of a register, its register file and their address map have different identifiers. -/
theorem Export.types_of_block_have_identifiers : ∃ plan memory,
    (quick oneBlock.tree).plan.run (.empty ()) = (.ok plan, memory) ∧ plan.records.length = 3 ∧
      plan.records.Pairwise fun r r' => r.identifier ≠ r'.identifier := by
  have ht : oneBlock.tree.Loaded := Description.loaded_tree (by decide +kernel)
  have hrun : ∃ plan ∈ ((quick oneBlock.tree).plan.run (.empty ())).1.toOption,
      plan.records.length = 3 ∧
        plan.records.Pairwise fun r r' => r.hash ≠ r'.hash ∧ r'.hash ≠ -r.hash := by
    decide +kernel
  obtain ⟨plan, hmem, hlength, hhashes⟩ := hrun
  have hplan := run_of_mem hmem
  refine ⟨plan, _, hplan, hlength, hhashes.imp_of_mem fun {r r'} hr hr' hhash heq => hhash.2 ?_⟩
  have hname : plan.Names r'.hash r'.name r.identifier := heq ▸ .type hr'
  exact ((names_tell_hashes hhash.1).2 (quick oneBlock.tree) () plan _ ht hplan r.name r'.name
    r.identifier (.type hr) hname).1

/-- A definition whose name ends with the mark of negative hashes gets the type name of another
definition, and the name is registered twice without a fault. -/
theorem Export.marked_definition_takes_name :
    className none "x_neg" 16 = "x_neg_10" ∧ className none "x" (-16) = "x_neg_10" ∧
      Identifiers.register [] "x_neg_10" = .ok ("XNeg10", [("XNeg10", "x_neg_10")]) ∧
      Identifiers.register [("XNeg10", "x_neg_10")] "x_neg_10" =
        .ok ("XNeg10", [("XNeg10", "x_neg_10")]) := by
  decide +kernel

end RegisterMap
