import Mathlib
import RegisterMap.Proofs.Export.Position
import RegisterMap.Proofs.Export.TypeNames

/-!
# One hash and several names

A hash is taken of the name of the definition in its scope as one text, the levels of the scope and
the name separated by `::` (`Component.typeKey`).  A type name has the levels separated by
underscores, but leaves the name of the definition as it is.  So the text that is hashed can be
split at several places if the name of the definition holds a separator itself, and then the nodes
have one hash and different type names.

Nodes of one hash have one type name exactly if their definitions have the same scope and the same
name (`Component.hashedName_eq_iff`), and they do if no name of a definition holds a colon
(`Component.sameDefinition_of_noColon`).  A plan that fails for the names of one hash tells of two
shown nodes of that hash whose definitions differ (`Export.names_of_hash`).
-/

namespace RegisterMap

/-! ## Joined names -/

/-- The definitions have the same scope, where none counts as the empty one, and the same name. -/
structure Component.SameDefinition (c c' : Component) : Prop where
  scope : c.scopePath.getD "" = c'.scopePath.getD ""
  name : c.baseTypeName = c'.baseTypeName

/-- The text is empty or ends with the character. -/
def EndsWith (c : Char) (text : List Char) : Prop := ∀ d ∈ text.getLast?, d = c

lemma endsWith_append (text : List Char) (c : Char) : EndsWith c (text ++ [c]) := by
  intro d hd
  rw [List.getLast?_concat] at hd
  exact (Option.some.inj hd).symm

lemma EndsWith.of_append {c : Char} {text rest : List Char} (h : EndsWith c (text ++ rest)) :
    EndsWith c rest := by
  intro d hd
  have hne : rest ≠ [] := by
    rintro rfl
    cases hd
  exact h d (by rwa [List.getLast?_append_of_ne_nil text hne])

/-- No text ends with two characters. -/
lemma EndsWith.eq_nil {c d : Char} {text : List Char} (hcd : c ≠ d) (hc : EndsWith c text)
    (hd : EndsWith d text) : text = [] := by
  by_contra hne
  have hlast := List.getLast?_eq_getLast_of_ne_nil hne
  exact hcd ((hc _ hlast).symm.trans (hd _ hlast))

/-- The scope with the separator after it, as it stands before the name in what is hashed. -/
def joinedScope (scope : String) : List Char :=
  if scope = "" then [] else scope.toList ++ [':', ':']

/-- The scope with the separator after it, as it stands before the name in a type name. -/
def flattenedScope (scope : String) : List Char :=
  if scope = "" then [] else flattenScope scope.toList ++ ['_']

lemma endsWith_joinedScope (scope : String) : EndsWith ':' (joinedScope scope) := by
  unfold joinedScope
  split
  · exact nofun
  · exact (List.append_assoc scope.toList [':'] [':']) ▸ endsWith_append _ _

lemma endsWith_flattenedScope (scope : String) : EndsWith '_' (flattenedScope scope) := by
  unfold flattenedScope
  split
  · exact nofun
  · exact endsWith_append _ _

lemma joinedScope_injective : Function.Injective joinedScope := by
  intro s s' h
  unfold joinedScope at h
  split at h <;> split at h
  · next hs hs' => rw [hs, hs']
  · simp at h
  · simp at h
  · exact String.toList_inj.1 (List.append_cancel_right h)

namespace Component

variable {c c' : Component}

lemma toList_typeKey (c : Component) :
    c.typeKey.toList = joinedScope (c.scopePath.getD "") ++ c.baseTypeName.toList := by
  unfold typeKey joinedScope
  cases c.scopePath with
  | none => rfl
  | some scope =>
    rw [Option.getD_some]
    dsimp only
    split <;> simp [String.toList_append]

lemma toList_qualifiedName (c : Component) : (qualifiedName c.scopePath c.baseTypeName).toList =
    flattenedScope (c.scopePath.getD "") ++ c.baseTypeName.toList := by
  unfold qualifiedName flattenedScope
  split <;> simp [String.toList_append]

/-- Where a joined name is split at a later separator than another one, the shorter name stands
after a colon, and the flattened names differ before it. -/
lemma name_eq_of_splits {a a' b b' n n' z : List Char} (ha : EndsWith ':' a')
    (hb : EndsWith '_' b') (hscope : a' = a ++ z) (hrest : n = z ++ n')
    (hname : b ++ n = b' ++ n') : n = n' := by
  rw [hrest, ← List.append_assoc] at hname
  have hflat : b' = b ++ z := (List.append_cancel_right hname).symm
  have hnil : z = [] :=
    EndsWith.eq_nil (by decide) (hscope ▸ ha).of_append (hflat ▸ hb).of_append
  rw [hrest, hnil, List.nil_append]

/-- Where a joined name is split at a later separator than another one, the longer name holds a
colon. -/
lemma name_eq_of_noColon {a a' n n' z : List Char} (ha : EndsWith ':' a') (hscope : a' = a ++ z)
    (hrest : n = z ++ n') (hn : ':' ∉ n) : n = n' := by
  have hnil : z = [] := by
    by_contra hne
    have hlast := (hscope ▸ ha).of_append _ (List.getLast?_eq_getLast_of_ne_nil hne)
    exact hn (hrest ▸ List.mem_append_left _ (hlast ▸ List.getLast_mem hne))
  rw [hrest, hnil, List.nil_append]

/-- The name in a joined name tells the scope. -/
lemma sameDefinition_of_name (hkey : c.typeKey = c'.typeKey)
    (hname : c.baseTypeName = c'.baseTypeName) : c.SameDefinition c' := by
  have hjoined := congrArg String.toList hkey
  rw [toList_typeKey, toList_typeKey, hname] at hjoined
  exact ⟨joinedScope_injective (List.append_cancel_right hjoined), hname⟩

/-- A definition is told by its joined name together with its name in type names. -/
lemma sameDefinition_of_qualifiedName (hkey : c.typeKey = c'.typeKey)
    (hname : qualifiedName c.scopePath c.baseTypeName =
      qualifiedName c'.scopePath c'.baseTypeName) : c.SameDefinition c' := by
  have hjoined := congrArg String.toList hkey
  have hflat := congrArg String.toList hname
  rw [toList_typeKey, toList_typeKey] at hjoined
  rw [toList_qualifiedName, toList_qualifiedName] at hflat
  refine sameDefinition_of_name hkey (String.toList_inj.1 ?_)
  rcases List.append_eq_append_iff.1 hjoined with ⟨z, hscope, hrest⟩ | ⟨z, hscope, hrest⟩
  · exact name_eq_of_splits (endsWith_joinedScope _) (endsWith_flattenedScope _) hscope hrest hflat
  · exact (name_eq_of_splits (endsWith_joinedScope _) (endsWith_flattenedScope _) hscope hrest
      hflat.symm).symm

/-- Names without a colon are told by the joined name alone. -/
lemma sameDefinition_of_noColon (hkey : c.typeKey = c'.typeKey)
    (hc : ':' ∉ c.baseTypeName.toList) (hc' : ':' ∉ c'.baseTypeName.toList) :
    c.SameDefinition c' := by
  have hjoined := congrArg String.toList hkey
  rw [toList_typeKey, toList_typeKey] at hjoined
  refine sameDefinition_of_name hkey (String.toList_inj.1 ?_)
  rcases List.append_eq_append_iff.1 hjoined with ⟨z, hscope, hrest⟩ | ⟨z, hscope, hrest⟩
  · exact name_eq_of_noColon (endsWith_joinedScope _) hscope hrest hc
  · exact (name_eq_of_noColon (endsWith_joinedScope _) hscope hrest hc').symm

/-- Nodes of one hash, whose joined names are the same, have one type name exactly if their
definitions are the same. -/
theorem hashedName_eq_iff (hkey : c.typeKey = c'.typeKey) (hash : ℤ) :
    c.hashedName hash = c'.hashedName hash ↔ c.SameDefinition c' := by
  constructor
  · intro hname
    have hmarked := (className_eq_className_iff.1 hname).1
    refine sameDefinition_of_qualifiedName hkey ?_
    unfold markedName at hmarked
    split at hmarked
    · exact (String.append_left_inj _).1 hmarked
    · exact hmarked
  · rintro ⟨hscope, hname⟩
    unfold Component.hashedName
    rw [className_eq_qualifiedName, className_eq_qualifiedName, qualifiedName, qualifiedName,
      hscope, hname]

end Component

/-! ## Hashes -/

namespace Screen

variable {hidden : Screen} {h : Hasher} {t : RegisterTree} {p q : Place} {inputs : List HashItem}
  {v : ℤ}

/-- Every input ends with the joined name of the definition. -/
lemma input_eq_typeKey {a : HashItem} (ha : hidden.input h t p = some a) :
    ∃ front, a = .list (front ++ [.pair "type" (.text p.node.component.typeKey)]) := by
  by_cases hfield : p.node.kind = .field
  · obtain ⟨f, hf⟩ := exists_field hfield
    rw [input_field hf] at ha
    split at ha
    · cases ha
    · exact ⟨_, (Option.some.inj ha).symm⟩
  · rw [input_node hfield] at ha
    obtain ⟨items, -, rfl⟩ := Option.map_eq_some_iff.1 ha
    exact ⟨_, rfl⟩

/-- Nodes of one hash have one joined name. -/
lemma typeKey_eq_of_hash (hfree : h.CollisionFree inputs) (hp : hidden.inputs h t p ⊆ inputs)
    (hq : hidden.inputs h t q ⊆ inputs) (hv : hidden.typeHash h t p = .ok (.hash v))
    (hv' : hidden.typeHash h t q = .ok (.hash v)) :
    p.node.component.typeKey = q.node.component.typeKey := by
  obtain ⟨a, ha, hb⟩ := input_eq_of_hash hfree hp hq hv hv'
  obtain ⟨front, rfl⟩ := input_eq_typeKey ha
  obtain ⟨front', heq⟩ := input_eq_typeKey hb
  have hlast := (List.append_inj' (HashItem.list.inj heq) rfl).2
  simpa [HashItem.pair] using hlast

/-! ## Plans -/

/-- The fault, if it is about the names of one hash, tells of two shown nodes of that hash. -/
def Tells (hidden : Screen) (h : Hasher) (t : RegisterTree) (fault : ExportFault) : Prop :=
  ∀ hash path existing computed, fault = .nameMismatch hash path existing computed →
    ∃ p ∈ hidden.places t.top, ∃ q ∈ hidden.places t.top,
      hidden.typeHash h t p = .ok (.hash hash) ∧ hidden.typeHash h t q = .ok (.hash hash) ∧
      existing = p.node.component.hashedName hash ∧
      computed = q.node.component.hashedName hash ∧ existing ≠ computed ∧ path = t.path q

/-- The records are of shown nodes, with their hashes and their names. -/
def Recorded (hidden : Screen) (h : Hasher) (t : RegisterTree) (w : Walk) : Prop :=
  ∀ r ∈ w.plan.records, r.place ∈ hidden.places t.top ∧
    hidden.typeHash h t r.place = .ok (.hash r.hash) ∧
    r.name = r.place.node.component.hashedName r.hash

lemma Recorded.added {w w' : Walk} {fresh : Bool} (hw : hidden.Recorded h t w)
    (hp : p ∈ hidden.places t.top) (hv : hidden.typeHash h t p = .ok (.hash v))
    (hadded : Walk.Added p v w fresh w') : hidden.Recorded h t w' := by
  intro r hr
  cases fresh with
  | false => exact hw r ((hadded.known rfl).1 ▸ hr)
  | true =>
    obtain ⟨-, identifier, hrecords⟩ := hadded.new rfl
    rw [hrecords] at hr
    rcases List.mem_cons.1 hr with rfl | hr
    · exact ⟨hp, hv, rfl⟩
    · exact hw r hr

/-- A plan that fails for the names of one hash tells of two nodes of that hash. -/
lemma tells_of_plan (ht : t.Loaded) (hsignals : hidden.HidesSignals) :
    FailsOnly (hidden.Tells h t) (hidden.plan h t) := by
  have htype : ∀ p ∈ hidden.places t.top, FailsOnly (hidden.Tells h t) (hidden.typeHash h t p) := by
    intro p hp
    obtain ⟨type, htype⟩ := exists_typeHash (h := h) ht hsignals (places_subset _ hp)
      (kind_ne_signal ht hsignals p hp)
    exact .of_eq_ok htype
  have hstep : ∀ (p : Place) hash (w : Walk), p ∈ hidden.places t.top →
      hidden.typeHash h t p = .ok (.hash hash) → hidden.Recorded h t w →
      Walk.Runs (hidden.Tells h t) (Walk.addType h t p hash) w
        fun _ w' => hidden.Recorded h t w' := by
    intro p hash w hp hv hw
    have hmismatch : ∀ existing ∈ w.plan.records, existing.hash = hash →
        existing.name ≠ p.node.component.hashedName hash → hidden.Tells h t
          (.nameMismatch hash (t.path p) existing.name (p.node.component.hashedName hash)) := by
      intro existing hmem hhash hname
      obtain ⟨hplace, hv', hnamed⟩ := hw existing hmem
      rw [hhash] at hv' hnamed
      rintro _ _ _ _ ⟨⟩
      exact ⟨existing.place, hplace, p, hp, hv', hv, hnamed, rfl, hname, rfl⟩
    obtain ⟨hfails, hends⟩ := Walk.runs_addType (fun _ _ _ _ _ _ _ h => nomatch h) hmismatch
    exact ⟨hfails, Walk.Ends.imp hends fun _ w' hadded => hw.added hp hv hadded⟩
  unfold Screen.plan
  split
  · exact .error fun _ _ _ _ h => nomatch h
  · have hvisit := Walk.runs_visit ht htype (fun _ _ hw => hw) (fun _ _ _ hw => hw) hstep
      (mem_places_self t.top) (w := {}) nofun
    exact hvisit.1.bind fun _ _ => .ok _

end Screen

namespace Export

/-- Shown nodes of one hash have one type name exactly if their definitions are the same.  A plan
that fails for two names of one hash tells of two shown nodes of that hash whose definitions differ,
so no plan fails in this way if no name of a definition holds a colon. -/
theorem names_of_hash [RunHash] {t : RegisterTree} {config : ExportConfig} {hide : Hiding}
    (ht : t.Loaded)
    (hfree : (Hasher.ofConfig config).CollisionFree
      (Screen.hashed (hide.isHidden t) (.ofConfig config) t t.top)) :
    (∀ p ∈ Screen.places (hide.isHidden t) t.top, ∀ q ∈ Screen.places (hide.isHidden t) t.top,
      ∀ v, hashOf t config hide p = .ok (.hash v) → hashOf t config hide q = .ok (.hash v) →
        (p.node.component.hashedName v = q.node.component.hashedName v ↔
          p.node.component.SameDefinition q.node.component)) ∧
    (∀ {σ : Type} (s : σ) v path existing computed,
      ((configured t config hide).plan.run (.empty s)).1 =
          .error (.nameMismatch v path existing computed) →
        ∃ p ∈ Screen.places (hide.isHidden t) t.top, ∃ q ∈ Screen.places (hide.isHidden t) t.top,
          hashOf t config hide p = .ok (.hash v) ∧ hashOf t config hide q = .ok (.hash v) ∧
          ¬ p.node.component.SameDefinition q.node.component ∧
          existing = p.node.component.hashedName v ∧ computed = q.node.component.hashedName v ∧
          path = t.path q) ∧
    ((∀ p ∈ Screen.places (hide.isHidden t) t.top, ':' ∉ p.node.component.baseTypeName.toList) →
      ∀ {σ : Type} (s : σ) v path existing computed,
        ((configured t config hide).plan.run (.empty s)).1 ≠
          .error (.nameMismatch v path existing computed)) := by
  have hplace : ∀ p ∈ Screen.places (hide.isHidden t) t.top, hashOf t config hide p =
      Screen.typeHash (hide.isHidden t) (.ofConfig config) t p := fun p hp =>
    hashOf_eq ht (Place.subtree_subset ht.numbered.2 (Screen.places_subset _ hp))
  have hkey : ∀ p ∈ Screen.places (hide.isHidden t) t.top,
      ∀ q ∈ Screen.places (hide.isHidden t) t.top, ∀ v, hashOf t config hide p = .ok (.hash v) →
        hashOf t config hide q = .ok (.hash v) →
          p.node.component.typeKey = q.node.component.typeKey := by
    intro p hp q hq v hv hv'
    exact Screen.typeKey_eq_of_hash hfree (Screen.inputs_subset_hashed hp)
      (Screen.inputs_subset_hashed hq) (hplace p hp ▸ hv) (hplace q hq ▸ hv')
  have hmismatch : ∀ {σ : Type} (s : σ) v path existing computed,
      ((configured t config hide).plan.run (.empty s)).1 =
          .error (.nameMismatch v path existing computed) →
        ∃ p ∈ Screen.places (hide.isHidden t) t.top, ∃ q ∈ Screen.places (hide.isHidden t) t.top,
          hashOf t config hide p = .ok (.hash v) ∧ hashOf t config hide q = .ok (.hash v) ∧
          ¬ p.node.component.SameDefinition q.node.component ∧
          existing = p.node.component.hashedName v ∧ computed = q.node.component.hashedName v ∧
          path = t.path q := by
    intro σ s v path existing computed hrun
    have hplan : Screen.plan (hide.isHidden t) (.ofConfig config) t =
        .error (.nameMismatch v path existing computed) :=
      (plan_run_empty ht.distinct_top s).symm.trans hrun
    obtain ⟨p, hp, q, hq, hv, hv', hexisting, hcomputed, hne, hpath⟩ :=
      Screen.tells_of_plan ht (hide.hidesSignals t) _ hplan v path existing computed rfl
    rw [← hplace p hp] at hv
    rw [← hplace q hq] at hv'
    refine ⟨p, hp, q, hq, hv, hv', fun hsame => hne ?_, hexisting, hcomputed, hpath⟩
    rw [hexisting, hcomputed, Component.hashedName_eq_iff (hkey p hp q hq v hv hv')]
    exact hsame
  refine ⟨fun p hp q hq v hv hv' => Component.hashedName_eq_iff (hkey p hp q hq v hv hv') v,
    hmismatch, fun hcolon σ s v path existing computed hrun => ?_⟩
  obtain ⟨p, hp, q, hq, hv, hv', hdiffer, -⟩ := hmismatch s v path existing computed hrun
  exact hdiffer (Component.sameDefinition_of_noColon (hkey p hp q hq v hv hv') (hcolon p hp)
    (hcolon q hq))

/-- An address map of two registers that are the same but for the scopes and the names of their
definitions. -/
def twoDefinitions (scope typeName scope' typeName' : String) : Description :=
  .group .addressMap "top" 0
    [.mk { (default : Attributes) with
        kind := .register, instName := "r", scopePath := some scope, typeName := some typeName,
        registerWidth := some 32 } [.field "v" 0 7 .readWrite []],
      .mk { (default : Attributes) with
        kind := .register, instName := "q", offset := 4, scopePath := some scope',
        typeName := some typeName', registerWidth := some 32 } [.field "v" 0 7 .readWrite []]]

/-- A shown child is reached. -/
lemma part_mem_places {hidden : Screen} {p : Place} {i : ℕ} (hi : i < p.children.length)
    (hshown : hidden (p.part i) = false) : p.part i ∈ hidden.places p := by
  have hmem : p.part i ∈ p.children := by
    rw [Place.part, List.getD_eq_getElem _ _ hi]
    exact List.getElem_mem hi
  refine Screen.visible_mem_places (Screen.mem_places_self p) (List.mem_filter.2 ⟨hmem, ?_⟩)
  rw [hshown]
  rfl

/-- Two registers of one definition. -/
def sameDefinitions : RegisterTree := (twoDefinitions "a::b" "c" "a::b" "c").tree

/-- Two registers whose definitions are joined to one name: `b::c` in `a`, and `c` in `a::b`. -/
def splitDefinitions : RegisterTree := (twoDefinitions "a" "b::c" "a::b" "c").tree

section

attribute [local instance] smallRun

/-- Registers of one definition have one hash and one type name. -/
theorem same_definitions_have_one_name : sameDefinitions.Loaded ∧
    (Hasher.ofConfig { algorithm := .fast }).CollisionFree (Screen.hashed
      (Hiding.isHidden ⟨true, []⟩ sameDefinitions) (.ofConfig { algorithm := .fast })
      sameDefinitions sameDefinitions.top) ∧
    hashOf sameDefinitions { algorithm := .fast } ⟨true, []⟩ (sameDefinitions.top.part 0) =
      .ok (.hash 1402239468189036389) ∧
    hashOf sameDefinitions { algorithm := .fast } ⟨true, []⟩ (sameDefinitions.top.part 1) =
      .ok (.hash 1402239468189036389) ∧
    (sameDefinitions.top.part 0).node.component.hashedName 1402239468189036389 =
      (sameDefinitions.top.part 1).node.component.hashedName 1402239468189036389 := by
  have ht : sameDefinitions.Loaded := Description.loaded_tree
    (d := twoDefinitions "a::b" "c" "a::b" "c") (by decide +kernel)
  have hfree : (Hasher.ofConfig { algorithm := .fast }).CollisionFree (Screen.hashed
      (Hiding.isHidden ⟨true, []⟩ sameDefinitions) (.ofConfig { algorithm := .fast })
      sameDefinitions sameDefinitions.top) := by decide +kernel
  have hv : hashOf sameDefinitions { algorithm := .fast } ⟨true, []⟩ (sameDefinitions.top.part 0) =
      .ok (.hash 1402239468189036389) := by decide +kernel
  have hv' : hashOf sameDefinitions { algorithm := .fast } ⟨true, []⟩
      (sameDefinitions.top.part 1) = .ok (.hash 1402239468189036389) := by decide +kernel
  have hp : sameDefinitions.top.part 0 ∈
      Screen.places (Hiding.isHidden ⟨true, []⟩ sameDefinitions) sameDefinitions.top :=
    part_mem_places (by decide +kernel) (by decide +kernel)
  have hq : sameDefinitions.top.part 1 ∈
      Screen.places (Hiding.isHidden ⟨true, []⟩ sameDefinitions) sameDefinitions.top :=
    part_mem_places (by decide +kernel) (by decide +kernel)
  have hsame : (sameDefinitions.top.part 0).node.component.SameDefinition
      (sameDefinitions.top.part 1).node.component := ⟨rfl, rfl⟩
  obtain ⟨hname, -, -⟩ := names_of_hash ht hfree
  exact ⟨ht, hfree, hv, hv', (hname _ hp _ hq _ hv hv').2 hsame⟩

/-- Registers of one joined name have one hash and two type names, and there is no plan. -/
theorem split_definitions_mismatch : splitDefinitions.Loaded ∧
    ({} : ExportConfig).validate = .ok () ∧
    (Hasher.ofConfig {}).CollisionFree (Screen.hashed (Hiding.isHidden ⟨true, []⟩ splitDefinitions)
      (.ofConfig {}) splitDefinitions splitDefinitions.top) ∧
    hashOf splitDefinitions {} ⟨true, []⟩ (splitDefinitions.top.part 0) =
      .ok (.hash 140721953274690231) ∧
    hashOf splitDefinitions {} ⟨true, []⟩ (splitDefinitions.top.part 1) =
      .ok (.hash 140721953274690231) ∧
    ((configured splitDefinitions {} ⟨true, []⟩).plan.run (.empty ())).1.map (fun _ => ()) =
      .error (.nameMismatch 140721953274690231 "top.q" "a_b::c_1f3f1def5097ab7"
        "a_b_c_1f3f1def5097ab7") := by
  refine ⟨Description.loaded_tree (d := twoDefinitions "a" "b::c" "a::b" "c") ?_, rfl, ?_, ?_, ?_,
    ?_⟩
  all_goals decide +kernel

end

end Export

end RegisterMap
