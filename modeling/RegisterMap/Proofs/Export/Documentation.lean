import Mathlib
import RegisterMap.Proofs.Export.Likeness
import RegisterMap.Source.Model

/-!
# The documentation of a shared type

The comment of a generated type shows the name and the description of the node that it was made
from, and its constants show the exported properties.  Where other nodes share the type, these
should be theirs as well (`Component.DocumentedAlike`).

In a hash input the name, the description and the properties stand in one list of pairs, and where a
node has no value the pair is left out.  Pairs with distinct keys are read back in one way
(`HashItem.entries_eq`), but a configuration may export properties that are called `name` or `desc`
themselves.  So nodes of one hash are documented alike if the configuration exports no property of
these names, and in any case exactly if both or neither have a name and both or neither have a
description (`Export.shared_documentation`).
-/

namespace RegisterMap

/-! ## Exported properties -/

namespace ExportConfig

variable {name key : String} {ns : List String}

lemma mem_insertName : key ∈ insertName name ns ↔ key = name ∨ key ∈ ns := by
  induction ns with
  | nil => simp [insertName]
  | cons n rest ih =>
    unfold insertName
    split
    · next heq => simp [heq]
    · split
      · simp
      · rw [List.mem_cons, ih, List.mem_cons, or_left_comm]

lemma pairwise_insertName (h : ns.Pairwise (· < ·)) : (insertName name ns).Pairwise (· < ·) := by
  induction ns with
  | nil => exact List.pairwise_singleton _ _
  | cons n rest ih =>
    obtain ⟨hn, hrest⟩ := List.pairwise_cons.1 h
    unfold insertName
    split
    · exact h
    · next hne =>
      split
      · next hlt =>
        refine List.pairwise_cons.2 ⟨fun key hkey => ?_, h⟩
        rcases List.mem_cons.1 hkey with rfl | hkey
        · exact hlt
        · exact hlt.trans (hn key hkey)
      · next hle =>
        refine List.pairwise_cons.2 ⟨fun key hkey => ?_, ih hrest⟩
        rcases mem_insertName.1 hkey with rfl | hkey
        · exact lt_of_le_of_ne (not_lt.1 hle) hne
        · exact hn key hkey

lemma mem_foldl_insertName (names : List String) :
    key ∈ names.foldl (fun ns n => insertName n ns) ns ↔ key ∈ names ∨ key ∈ ns := by
  induction names generalizing ns with
  | nil => simp
  | cons n rest ih =>
    rw [List.foldl_cons, ih, mem_insertName, List.mem_cons, or_left_comm, or_assoc]

lemma pairwise_foldl_insertName (names : List String) (h : ns.Pairwise (· < ·)) :
    (names.foldl (fun ns n => insertName n ns) ns).Pairwise (· < ·) := by
  induction names generalizing ns with
  | nil => exact h
  | cons n rest ih => exact ih (pairwise_insertName h)

variable {config : ExportConfig}

lemma mem_propertyNames : key ∈ config.propertyNames ↔ key ∈ config.properties := by
  rw [propertyNames, mem_foldl_insertName]
  simp

lemma nodup_propertyNames (config : ExportConfig) : config.propertyNames.Nodup :=
  (pairwise_foldl_insertName _ List.Pairwise.nil).imp ne_of_lt

lemma validate_eq_ok_iff :
    config.validate = .ok () ↔ ∀ key ∈ config.properties, key ∉ reservedProperties := by
  have hfind : config.properties.find? reservedProperties.contains = none ↔
      ∀ key ∈ config.properties, key ∉ reservedProperties := by
    simp [List.find?_eq_none]
  rw [← hfind]
  unfold validate
  cases config.properties.find? reservedProperties.contains <;> simp

/-- All properties of a valid configuration count as part of shapes. -/
lemma properties_ofConfig [RunHash] (hvalid : config.validate = .ok ()) :
    (Hasher.ofConfig config).properties = config.propertyNames := by
  refine List.filter_eq_self.2 fun key hkey => ?_
  simpa using validate_eq_ok_iff.1 hvalid key (mem_propertyNames.1 hkey)

end ExportConfig

/-! ## Pairs -/

namespace HashItem

/-- What an optional value under a key adds to a hash input. -/
def entry? (p : String × Option HashItem) : Option HashItem := p.2.map (pair p.1)

lemma key_of_mem_entries {l : List (String × Option HashItem)} {key : String} {value : HashItem}
    (h : pair key value ∈ l.filterMap entry?) : key ∈ l.map Prod.fst := by
  obtain ⟨p, hp, hentry⟩ := List.mem_filterMap.1 h
  obtain ⟨value', -, heq⟩ := Option.map_eq_some_iff.1 hentry
  have hkey : p.1 = key := by
    simp only [pair, list.injEq, List.cons.injEq, text.injEq] at heq
    exact heq.1
  exact List.mem_map.2 ⟨p, hp, hkey⟩

/-- Optional values under distinct keys are read back from the pairs of those that are there. -/
theorem entries_eq {l l' : List (String × Option HashItem)}
    (hkeys : l.map Prod.fst = l'.map Prod.fst) (hnodup : (l.map Prod.fst).Nodup)
    (heq : l.filterMap entry? = l'.filterMap entry?) : l = l' := by
  induction l generalizing l' with
  | nil => exact (List.map_eq_nil_iff.1 hkeys.symm).symm
  | cons p rest ih =>
    obtain ⟨key, value⟩ := p
    obtain ⟨⟨key', value'⟩, rest', rfl⟩ := List.exists_cons_of_length_eq_add_one
      (by simpa using (congrArg List.length hkeys).symm : l'.length = rest.length + 1)
    rw [List.map_cons, List.map_cons, List.cons.injEq] at hkeys
    obtain ⟨rfl, hkeys⟩ := hkeys
    obtain ⟨hkey, hdistinct⟩ := List.nodup_cons.1 hnodup
    -- a value that is missing on one side would have to come from another key
    cases value with
    | none =>
      cases value' with
      | none => rw [ih hkeys hdistinct heq]
      | some v =>
        have hmem : pair key v ∈ rest.filterMap entry? := by
          have heq : rest.filterMap entry? = pair key v :: rest'.filterMap entry? := heq
          rw [heq]
          exact List.mem_cons_self
        exact absurd (key_of_mem_entries hmem) hkey
    | some v =>
      cases value' with
      | none =>
        have hmem : pair key v ∈ rest'.filterMap entry? := by
          have heq : pair key v :: rest.filterMap entry? = rest'.filterMap entry? := heq
          rw [← heq]
          exact List.mem_cons_self
        exact absurd (hkeys ▸ key_of_mem_entries hmem) hkey
      | some v' =>
        have heq : pair key v :: rest.filterMap entry? =
          pair key v' :: rest'.filterMap entry? := heq
        obtain ⟨hvalue, heq⟩ := List.cons.inj heq
        simp only [pair, list.injEq, List.cons.injEq, true_and, and_true] at hvalue
        rw [hvalue, ih hkeys hdistinct heq]

end HashItem

lemma Hasher.propertyItem_injective : Function.Injective propertyItem := by
  intro a b h
  cases a <;> cases b <;> cases h <;> rfl

/-! ## Nodes that are documented alike -/

/-- The nodes have the same name, description and exported properties, and show the same comment and
the same constants. -/
structure Component.DocumentedAlike (config : ExportConfig) (c d : Component) : Prop where
  name : c.name = d.name
  desc : c.desc = d.desc
  properties : ∀ key ∈ config.properties,
    Properties.get? c.properties key = Properties.get? d.properties key
  comment : Rendering.documentation c = Rendering.documentation d
  constants : ∀ x : Rendering, x.config = config → x.propertyConstants c = x.propertyConstants d

/-- Both of the nodes or neither of them have a name, and the same goes for descriptions. -/
structure Component.SamePresence (c d : Component) : Prop where
  name : c.name.isSome = d.name.isSome
  desc : c.desc.isSome = d.desc.isSome

namespace Hasher

variable {h : Hasher} {config : ExportConfig} {c d : Component}

/-- The name and the description under their keys. -/
def documentationEntries (c : Component) : List (String × Option HashItem) :=
  [("name", c.name.map .text), ("desc", c.desc.map .text)]

/-- The exported properties under their names. -/
def propertyEntries (h : Hasher) (c : Component) : List (String × Option HashItem) :=
  h.properties.map fun key => (key, (Properties.get? c.properties key).map propertyItem)

lemma commonItems_eq_entries (hdocumented : h.documented = true) :
    h.commonItems c = .text c.kind.tag ::
      ((documentationEntries c).filterMap HashItem.entry? ++
        (h.propertyEntries c).filterMap HashItem.entry?) := by
  have hproperties : (h.propertyEntries c).filterMap HashItem.entry? =
      h.properties.filterMap fun p =>
        (Properties.get? c.properties p).map fun v => .pair p (propertyItem v) := by
    rw [propertyEntries, List.filterMap_map]
    refine List.filterMap_congr fun key _ => ?_
    cases hvalue : Properties.get? c.properties key <;> simp [HashItem.entry?, hvalue]
  rw [hproperties]
  simp only [commonItems, hdocumented, if_true, documentationEntries]
  cases c.name <;> cases c.desc <;> rfl

lemma length_documentation (c : Component) :
    ((documentationEntries c).filterMap HashItem.entry?).length =
      c.name.isSome.toNat + c.desc.isSome.toNat := by
  unfold documentationEntries
  cases c.name <;> cases c.desc <;> rfl

lemma keys_propertyEntries (h : Hasher) (c : Component) :
    (h.propertyEntries c).map Prod.fst = h.properties := by
  simp [propertyEntries, Function.comp_def]

/-- Equal values under all keys are equal names, descriptions and exported properties. -/
lemma documentedAlike_of_entries [RunHash] (hvalid : config.validate = .ok ())
    (hdocumentation : documentationEntries c = documentationEntries d)
    (hproperties : (ofConfig config).propertyEntries c = (ofConfig config).propertyEntries d) :
    c.DocumentedAlike config d := by
  have htext : Function.Injective HashItem.text := fun _ _ => HashItem.text.inj
  simp only [documentationEntries, List.cons.injEq, Prod.mk.injEq, true_and, and_true]
    at hdocumentation
  have hname := Option.map_injective htext hdocumentation.1
  have hdesc := Option.map_injective htext hdocumentation.2
  have hvalues : ∀ key ∈ config.propertyNames,
      Properties.get? c.properties key = Properties.get? d.properties key := by
    intro key hkey
    rw [← ExportConfig.properties_ofConfig hvalid] at hkey
    have hentry := List.map_eq_map_iff.1 hproperties key hkey
    exact Option.map_injective propertyItem_injective (congrArg Prod.snd hentry)
  refine ⟨hname, hdesc, fun key hkey => hvalues key (ExportConfig.mem_propertyNames.2 hkey), ?_, ?_⟩
  · rw [Rendering.documentation, Rendering.documentation, hname, hdesc]
  · rintro x rfl
    unfold Rendering.propertyConstants
    exact List.filterMap_congr fun key hkey => by rw [hvalues key hkey]

section Common

variable [RunHash] (hvalid : config.validate = .ok ()) (hdocumented : config.documented = true)
  (heq : (ofConfig config).commonItems c = (ofConfig config).commonItems d)
include hvalid hdocumented heq

/-- What all nodes contribute is read back if both or neither have a name, and a description. -/
lemma documentedAlike_of_samePresence (hsame : c.SamePresence d) : c.DocumentedAlike config d := by
  rw [commonItems_eq_entries hdocumented, commonItems_eq_entries hdocumented] at heq
  have hlength : ((documentationEntries c).filterMap HashItem.entry?).length =
      ((documentationEntries d).filterMap HashItem.entry?).length := by
    rw [length_documentation, length_documentation, hsame.name, hsame.desc]
  obtain ⟨hdocumentation, hproperties⟩ := List.append_inj (List.cons.inj heq).2 hlength
  have hkeys : ["name", "desc"].Nodup := by decide
  refine documentedAlike_of_entries hvalid (HashItem.entries_eq rfl hkeys hdocumentation)
    (HashItem.entries_eq ?_ ?_ hproperties)
  · rw [keys_propertyEntries, keys_propertyEntries]
  · rw [keys_propertyEntries, ExportConfig.properties_ofConfig hvalid]
    exact config.nodup_propertyNames

/-- What all nodes contribute is read back if no exported property is called like the name or the
description. -/
lemma documentedAlike_of_notMem (hname : "name" ∉ config.properties)
    (hdesc : "desc" ∉ config.properties) : c.DocumentedAlike config d := by
  rw [commonItems_eq_entries hdocumented, commonItems_eq_entries hdocumented,
    ← List.filterMap_append, ← List.filterMap_append] at heq
  have hkeys (c : Component) : (documentationEntries c ++ (ofConfig config).propertyEntries c).map
      Prod.fst = "name" :: "desc" :: config.propertyNames := by
    rw [List.map_append, keys_propertyEntries, ExportConfig.properties_ofConfig hvalid]
    rfl
  have hnodup : ("name" :: "desc" :: config.propertyNames).Nodup := by
    rw [← ExportConfig.mem_propertyNames] at hname hdesc
    simp [hname, hdesc, config.nodup_propertyNames]
  have hentries := HashItem.entries_eq ((hkeys c).trans (hkeys d).symm)
    (by rw [hkeys]; exact hnodup) (List.cons.inj heq).2
  obtain ⟨hdocumentation, hproperties⟩ := List.append_inj hentries rfl
  exact documentedAlike_of_entries hvalid hdocumentation hproperties

end Common

end Hasher

/-! ## Shared types -/

namespace Screen

variable {hidden : Screen} {h : Hasher} {t : RegisterTree} {p q : Place} {inputs : List HashItem}
  {v : ℤ}

/-- What all nodes contribute is followed by an item that is no pair. -/
lemma input_eq_common_cons {a : HashItem} (ha : hidden.input h t p = some a) :
    ∃ b rest, ¬ b.IsList ∧ a = .list (h.commonItems p.node.component ++ b :: rest) := by
  by_cases hfield : p.node.kind = .field
  · obtain ⟨f, hf⟩ := exists_field hfield
    rw [input_field hf] at ha
    split at ha
    · cases ha
    · rw [← Option.some.inj ha, Hasher.fieldInput, List.append_assoc]
      exact ⟨_, _, HashItem.not_isList_text _, rfl⟩
  · rw [input_node hfield] at ha
    obtain ⟨items, -, rfl⟩ := Option.map_eq_some_iff.1 ha
    obtain ⟨b, rest, hown⟩ := Hasher.ownItems_eq_cons p.node.component
      ((hidden.accessors p).map (·.1.node))
    rw [Hasher.nodeInput, List.append_assoc, List.append_assoc, hown]
    exact ⟨_, _, HashItem.not_isList_flag b, rfl⟩

/-- Nodes of one hash contribute the same of what all nodes have. -/
theorem commonItems_eq_of_hash (hfree : h.CollisionFree inputs) (hp : hidden.inputs h t p ⊆ inputs)
    (hq : hidden.inputs h t q ⊆ inputs) (hv : hidden.typeHash h t p = .ok (.hash v))
    (hv' : hidden.typeHash h t q = .ok (.hash v)) :
    h.commonItems p.node.component = h.commonItems q.node.component := by
  obtain ⟨a, ha, hb⟩ := input_eq_of_hash hfree hp hq hv hv'
  obtain ⟨b, rest, hlist, rfl⟩ := input_eq_common_cons ha
  obtain ⟨b', rest', hlist', heq⟩ := input_eq_common_cons hb
  exact (Hasher.commonItems_append_inj hlist hlist' (HashItem.list.inj heq)).1

end Screen

namespace Export

variable {σ : Type} {e : Export σ} {config : ExportConfig} {memory memory' : ExportMemory σ}
  {p q : Place} {v : ℤ}

/-- Asking from any memory of an export for the hashes of two nodes, with the same answer: the nodes
are documented alike exactly if both or neither have a name and both or neither have a description,
and they are whenever no exported property is called `name` or `desc`. -/
theorem shared_documentation [RunHash] (ht : e.tree.Loaded)
    (hhasher : e.hasher = Hasher.ofConfig config) (hvalid : config.validate = .ok ())
    (hdocumented : config.documented = true)
    (hreached : e.Reached memory) (hp : p ∈ e.tree.top.subtree) (hq : q ∈ e.tree.top.subtree)
    (hask : (do return (← e.typeHash p, ← e.typeHash q)).run memory =
      (.ok (.hash v, .hash v), memory'))
    (hfree : e.hasher.CollisionFree (memory'.screen.hashed e.hasher e.tree p ++
      memory'.screen.hashed e.hasher e.tree q)) :
    (p.node.component.DocumentedAlike config q.node.component ↔
        p.node.component.SamePresence q.node.component) ∧
      ("name" ∉ config.properties → "desc" ∉ config.properties →
        p.node.component.DocumentedAlike config q.node.component) := by
  have hroot := ht.distinct_top
  let S := settling (ExportMemory.told (σ := σ)) (ExportMemory.Decided e)
  have hsettled : S.rel (do return (← e.typeHash p, ← e.typeHash q)) fun later => do
      return (← later.screen.typeHash e.hasher e.tree p,
        ← later.screen.typeHash e.hasher e.tree q) := by
    refine S.bind (settles_typeHash hroot hp) fun type _ _ => ?_
    exact S.bind (settles_typeHash hroot hq) fun type' _ _ => S.pure _
  have hdecided := Settles.eq_ok hsettled (hreached.decided ht) hask (HideAnswers.Stays.refl _)
  obtain ⟨type, htype, hdecided⟩ := bind_eq_ok.1 hdecided
  obtain ⟨type', htype', hdecided⟩ := bind_eq_ok.1 hdecided
  cases hdecided
  have hinputs (r : Place) :
      memory'.screen.inputs e.hasher e.tree r ⊆ memory'.screen.hashed e.hasher e.tree r :=
    Screen.inputs_subset_hashed (Screen.mem_places_self r)
  have hcommon := Screen.commonItems_eq_of_hash hfree
    (List.Subset.trans (hinputs p) (List.subset_append_left _ _))
    (List.Subset.trans (hinputs q) (List.subset_append_right _ _)) htype htype'
  rw [hhasher] at hcommon
  refine ⟨⟨fun halike => ⟨congrArg _ halike.name, congrArg _ halike.desc⟩, fun hsame => ?_⟩,
    fun hname hdesc => ?_⟩
  · exact Hasher.documentedAlike_of_samePresence hvalid hdocumented hcommon hsame
  · exact Hasher.documentedAlike_of_notMem hvalid hdocumented hcommon hname hdesc

/-! ## Two registers -/

section

attribute [local instance] smallRun

/-- A register of one field with some name and some properties. -/
def namedRegister (instName : String) (offset : ℕ) (name : Option String)
    (properties : Properties) : Description :=
  .mk { (default : Attributes) with
    kind := .register, instName, offset, registerWidth := some 32, name, properties }
    [.field "v" 0 7 .readWrite []]

/-- An address map of two registers: one with a name, and one with a property called `name`. -/
def namedRegisters (properties : Properties) (name : Option String) : Description :=
  .group .addressMap "top" 0 [namedRegister "a" 0 (some "x") properties,
    namedRegister "b" 4 name [("name", .text "x")]]

/-- The configuration that exports the property `name`. -/
def exportsName : ExportConfig := { properties := ["name"], algorithm := .fast }

/-- An export of a tree with that configuration. -/
def withName (t : RegisterTree) : Export Unit :=
  ⟨t, ⟨true, []⟩, .nothing, Hasher.ofConfig exportsName⟩

/-- The hashes of the first two nodes of a tree, and what is remembered after asking for them. -/
def askedNames (t : RegisterTree) : Except ExportFault (TypeHash × TypeHash) × ExportMemory Unit :=
  (do return (← (withName t).typeHash (t.top.part 0), ← (withName t).typeHash (t.top.part 1))).run
    (.empty ())

/-- What is hashed for the first two nodes of a tree. -/
def inputsOfNames (t : RegisterTree) : List HashItem :=
  let screen := (askedNames t).2.screen
  screen.hashed (withName t).hasher t (t.top.part 0) ++
    screen.hashed (withName t).hasher t (t.top.part 1)

/-- Two registers with the name and the property. -/
def bothNamed : RegisterTree := (namedRegisters [("name", .text "x")] (some "x")).tree

/-- A register with the name, and one with the property. -/
def eitherNamed : RegisterTree := (namedRegisters [] none).tree

/-- Registers with the name and the property share a type and are documented alike. -/
theorem named_registers_are_alike :
    (askedNames bothNamed).1 = .ok (.hash (-217919386128841640), .hash (-217919386128841640)) ∧
      (bothNamed.top.part 0).node.component.name = some "x" ∧
      (bothNamed.top.part 0).node.component.DocumentedAlike exportsName
        (bothNamed.top.part 1).node.component := by
  have ht : bothNamed.Loaded := Description.loaded_tree
    (d := namedRegisters [("name", .text "x")] (some "x")) (by decide +kernel)
  have hask : (askedNames bothNamed).1 =
      .ok (.hash (-217919386128841640), .hash (-217919386128841640)) := by decide +kernel
  have hfree : (withName bothNamed).hasher.CollisionFree (inputsOfNames bothNamed) := by
    decide +kernel
  have hnames : (bothNamed.top.part 0).node.component.name = some "x" ∧
      (bothNamed.top.part 1).node.component.name = some "x" ∧
      (bothNamed.top.part 0).node.component.desc = none ∧
      (bothNamed.top.part 1).node.component.desc = none := by decide +kernel
  obtain ⟨hname, hname', hdesc, hdesc'⟩ := hnames
  have hrun : askedNames bothNamed = (.ok (.hash (-217919386128841640),
    .hash (-217919386128841640)), (askedNames bothNamed).2) := Prod.ext hask rfl
  have htop := bothNamed.top.mem_subtree_self
  have hhasher : (withName bothNamed).hasher = Hasher.ofConfig exportsName := rfl
  obtain ⟨hiff, -⟩ := shared_documentation ht hhasher rfl rfl (.fresh ())
    (Place.part_mem_subtree htop 0) (Place.part_mem_subtree htop 1) hrun hfree
  exact ⟨hask, hname, hiff.2 ⟨by rw [hname, hname'], by rw [hdesc, hdesc']⟩⟩

/-- A register with the name and one with the property share a type, and only one of them has a
name. -/
theorem name_and_property_share_type :
    eitherNamed.Loaded ∧ exportsName.validate = .ok () ∧ exportsName.documented = true ∧
      (askedNames eitherNamed).1 = .ok (.hash 4029724821924157635, .hash 4029724821924157635) ∧
      (withName eitherNamed).hasher.CollisionFree (inputsOfNames eitherNamed) ∧
      ¬ (eitherNamed.top.part 0).node.component.DocumentedAlike exportsName
        (eitherNamed.top.part 1).node.component := by
  have hname : (eitherNamed.top.part 0).node.component.name ≠
      (eitherNamed.top.part 1).node.component.name := by decide +kernel
  refine ⟨Description.loaded_tree (d := namedRegisters [] none) ?_, rfl, rfl, ?_, ?_,
    fun halike => hname halike.name⟩
  all_goals decide +kernel

end

end Export

end RegisterMap
