import Mathlib
import RegisterMap.Proofs.Export.Likeness

/-!
# What a generated type tells

The generated type of a group tells what is in it and where, that of a memory also its sizes, and
that of a field its access and its enumeration.  A type is made from the first node with its hash and
used for all others, so it has to tell the truth of those as well: nodes with one hash, other than
registers, have one view (`shared_view_eq`).  For registers that is not so, since the access of a
plain field does not reach their hash.
-/

namespace RegisterMap

/-! ## Views -/

/-- What the generated type of a group or memory tells of something in it. -/
structure MemberView where
  /-- The name of the accessor. -/
  accessor : String
  instName : String
  /-- The offset in bytes from the beginning of the type. -/
  offset : ℕ
  /-- The dimensions and the stride of an array. -/
  array : Option ArrayShape
  kind : NodeKind
  type : TypeHash
deriving DecidableEq

/-- What the generated type of a group, a memory or a field tells. -/
structure TypeView where
  kind : NodeKind
  /-- What is shown in it, in order. -/
  members : List MemberView
  /-- The entries, their widths and the access of a memory. -/
  memory : Option MemoryDetail
  /-- The access of a field, and its enumeration with its entries in order. -/
  field : Option (Access × Option Enumeration)
deriving DecidableEq

namespace Node

/-- The memory that the node is, if it is one. -/
def memory? (n : Node) : Option MemoryDetail :=
  match n.detail with
  | .memory m => some m
  | _ => none

/-- The access and the enumeration of the field that the node is, if it is one. -/
def fieldView? (n : Node) : Option (Access × Option Enumeration) :=
  n.detail.field?.map fun f => (f.access, f.encoding.map (·.enumeration))

/-- The node as a member of another one, with its accessor and its type. -/
def memberView (n : Node) (accessor : String) (type : TypeHash) : MemberView where
  accessor
  instName := n.instName
  offset := n.component.offset
  array := n.component.array
  kind := n.kind
  type

end Node

section

variable {m : Type → Type} [Monad m] [MonadExceptOf ExportFault m]

/-- What the type of a place tells of a shown child, by asking for the type of that. -/
def memberViewOf (h : Hasher) (t : RegisterTree) (q : ShapeQueries m) (child : Place × String) :
    m MemberView := do
  let type ← typeHash h t q child.1.above child.1.node
  pure (child.1.node.memberView child.2 type)

/-- What the type of a place tells, by asking for its shown children and for their types. -/
def typeView (h : Hasher) (t : RegisterTree) (q : ShapeQueries m) (p : Place) : m TypeView := do
  let children ← q.children p
  let members ← children.mapM (memberViewOf h t q)
  pure ⟨p.node.kind, members, p.node.memory?, p.node.fieldView?⟩

end

/-- What the type of a place tells in an export. -/
def Export.view {σ : Type} (e : Export σ) (p : Place) : Exporting σ TypeView :=
  typeView e.hasher e.tree e.queries p

namespace Screen

variable {hidden : Screen} {h : Hasher} {t : RegisterTree} {p q : Place} {inputs : List HashItem}
  {v : ℤ}

/-- What the type of a place tells, without any memory. -/
def view (hidden : Screen) (h : Hasher) (t : RegisterTree) (p : Place) :
    Except ExportFault TypeView :=
  typeView h t hidden.queries p

lemma encodingItem_mem_inputs {f : FieldDetail} (hf : p.node.detail = .field f) :
    ∀ encoding ∈ f.encoding, Hasher.encodingItem encoding ∈ hidden.inputs h t p := by
  intro encoding hencoding
  simp [inputs, hf, Detail.field?, Option.mem_def.1 hencoding]

/-- Fields of one hash have one access and one enumeration. -/
lemma fieldView_eq_of_hash (hfree : h.CollisionFree inputs) (hp : hidden.inputs h t p ⊆ inputs)
    (hq : hidden.inputs h t q ⊆ inputs) (hkind : p.node.kind = .field)
    (hv : hidden.typeHash h t p = .ok (.hash v)) (hv' : hidden.typeHash h t q = .ok (.hash v)) :
    p.node.fieldView? = q.node.fieldView? := by
  have hkind' : q.node.kind = .field :=
    (SharesType.kind_eq hfree hp hq ⟨_, hv, hv'⟩).symm.trans hkind
  obtain ⟨f, hf⟩ := exists_field hkind
  obtain ⟨g, hg⟩ := exists_field hkind'
  obtain ⟨a, ha, hb⟩ := input_eq_of_hash hfree hp hq hv hv'
  rw [input_field hf] at ha
  rw [input_field hg] at hb
  split at ha
  · cases ha
  split at hb
  · cases hb
  obtain ⟨haccess, hencoding⟩ := Hasher.fieldInput_inj hfree
    (fun encoding he => hp (encodingItem_mem_inputs hf encoding he))
    (fun encoding he => hq (encodingItem_mem_inputs hg encoding he))
    (Option.some.inj (ha.trans hb.symm))
  simp only [Node.fieldView?, hf, hg, Detail.field?, Option.map_some, haccess, hencoding]

lemma memberView_eq {c d : Place × String} (hsame : hidden.SameMember h t c d)
    (hkind : c.1.node.kind = d.1.node.kind) (type : TypeHash) :
    c.1.node.memberView c.2 type = d.1.node.memberView d.2 type := by
  simp only [Node.memberView, hsame.accessor, hsame.instName, hsame.offset, hsame.array, hkind]

/-- The types of places with one hash tell the same, unless the places are registers. -/
theorem view_eq_of_hash (ht : t.Loaded) (hfree : h.CollisionFree inputs) (hp : p ∈ t.top.subtree)
    (hq : q ∈ t.top.subtree) (hhashed : hidden.hashed h t p ⊆ inputs)
    (hhashed' : hidden.hashed h t q ⊆ inputs) (hkind : p.node.kind ≠ .register)
    (hv : hidden.typeHash h t p = .ok (.hash v)) (hv' : hidden.typeHash h t q = .ok (.hash v)) :
    hidden.view h t p = hidden.view h t q := by
  have halike := alike_of_sharesType hfree ht hp hq hhashed hhashed' ⟨_, hv, hv'⟩
  have hkinds := halike.kind_eq
  -- it remains to compare what is shown in the places, and what they are
  suffices hparts : (hidden.accessors p).mapM (memberViewOf h t hidden.queries) =
      (hidden.accessors q).mapM (memberViewOf h t hidden.queries) ∧
      p.node.memory? = q.node.memory? ∧ p.node.fieldView? = q.node.fieldView? by
    obtain ⟨hmembers, hmemory, hfield⟩ := hparts
    have hview (r : Place) : hidden.view h t r =
        (hidden.accessors r).mapM (memberViewOf h t hidden.queries) >>= fun members =>
          pure ⟨r.node.kind, members, r.node.memory?, r.node.fieldView?⟩ := rfl
    rw [hview, hview, hmembers, hkinds, hmemory, hfield]
  cases halike with
  | field hpfield hqfield =>
    obtain ⟨f, hf⟩ := exists_field hpfield
    obtain ⟨g, hg⟩ := exists_field hqfield
    refine ⟨?_, ?_, fieldView_eq_of_hash hfree
      (List.Subset.trans (inputs_subset_hashed (mem_places_self p)) hhashed)
      (List.Subset.trans (inputs_subset_hashed (mem_places_self q)) hhashed') hpfield hv hv'⟩
    · rw [accessors_field ht hp hpfield, accessors_field ht hq hqfield]
    · simp only [Node.memory?, hf, hg]
  | register hregister _ _ => exact absurd hregister hkind
  | group _ _ detail members inner =>
    refine ⟨mapM_congr_forall₂ ?_, ?_, ?_⟩
    · obtain ⟨hlength, hsame⟩ := List.forall₂_iff_zip.1 members
      refine List.forall₂_iff_zip.2 ⟨hlength, fun {c d} hcd => ?_⟩
      obtain ⟨type, htype, htype'⟩ := (hsame hcd).type
      change (hidden.typeHash h t c.1 >>= fun type => pure _) =
        (hidden.typeHash h t d.1 >>= fun type => pure _)
      rw [htype, htype']
      exact congrArg Except.ok (memberView_eq (hsame hcd) (inner c d hcd).kind_eq type)
    · simp only [Node.memory?, detail]
    · simp only [Node.fieldView?, detail]

end Screen

namespace Export

variable {σ : Type} {e : Export σ} {memory memory' : ExportMemory σ} {p q : Place} {v : ℤ}

/-- What the type of a place tells is what the noted answers say without a memory. -/
lemma settles_view (ht : e.tree.Loaded) (hp : p ∈ e.tree.top.subtree) :
    Settles ExportMemory.told (ExportMemory.Decided e) (e.view p) fun later =>
      later.screen.view e.hasher e.tree p := by
  have hroot := ht.distinct_top
  let S := settling (ExportMemory.told (σ := σ)) (ExportMemory.Decided e)
  refine S.bind (settles_children hroot hp) fun children later hchildren => ?_
  have hmembers : S.rel (children.mapM (memberViewOf e.hasher e.tree e.queries)) fun later =>
      children.mapM (memberViewOf e.hasher e.tree later.screen.queries) := by
    refine S.mapM fun child hchild => ?_
    rw [← Except.ok.inj hchildren] at hchild
    have hvisible := Screen.fst_mem_of_mem_accessors hchild
    have htop := Place.children_mem_subtree hp (Screen.mem_children_of_visible hvisible)
    exact S.bind (settles_typeHash hroot htop) fun type _ _ => S.pure _
  exact S.bind hmembers fun members _ _ => S.pure _

/-- Asking from any memory of an export for the hashes of two nodes that are no registers, with the
same answer, and for what their types tell: the types tell the same. -/
theorem shared_view_eq (ht : e.tree.Loaded) (hreached : e.Reached memory)
    (hp : p ∈ e.tree.top.subtree) (hq : q ∈ e.tree.top.subtree) (hkind : p.node.kind ≠ .register)
    {view view' : TypeView}
    (hask : (do return (← e.typeHash p, ← e.typeHash q, ← e.view p, ← e.view q)).run memory =
      (.ok (.hash v, .hash v, view, view'), memory'))
    (hfree : e.hasher.CollisionFree (memory'.screen.hashed e.hasher e.tree p ++
      memory'.screen.hashed e.hasher e.tree q)) : view = view' := by
  have hroot := ht.distinct_top
  let S := settling (ExportMemory.told (σ := σ)) (ExportMemory.Decided e)
  have hsettled : S.rel (do return (← e.typeHash p, ← e.typeHash q, ← e.view p, ← e.view q))
      fun later => do
        return (← later.screen.typeHash e.hasher e.tree p, ← later.screen.typeHash e.hasher e.tree q,
          ← later.screen.view e.hasher e.tree p, ← later.screen.view e.hasher e.tree q) := by
    refine S.bind (settles_typeHash hroot hp) fun type _ _ => ?_
    refine S.bind (settles_typeHash hroot hq) fun type' _ _ => ?_
    refine S.bind (settles_view ht hp) fun view _ _ => ?_
    exact S.bind (settles_view ht hq) fun view' _ _ => S.pure _
  have hdecided := Settles.eq_ok hsettled (hreached.decided ht) hask (HideAnswers.Stays.refl _)
  obtain ⟨type, htype, hdecided⟩ := bind_eq_ok.1 hdecided
  obtain ⟨type', htype', hdecided⟩ := bind_eq_ok.1 hdecided
  obtain ⟨viewp, hviewp, hdecided⟩ := bind_eq_ok.1 hdecided
  obtain ⟨viewq, hviewq, hdecided⟩ := bind_eq_ok.1 hdecided
  cases hdecided
  have hviews : memory'.screen.view e.hasher e.tree p = memory'.screen.view e.hasher e.tree q :=
    Screen.view_eq_of_hash ht hfree hp hq (List.subset_append_left _ _)
      (List.subset_append_right _ _) hkind htype htype'
  exact Except.ok.inj (hviewp.symm.trans (hviews.trans hviewq))

/-! ## Two register files -/

/-- A register file with an empty one in it. -/
def nestedFile (name : String) (offset : ℕ) : Description :=
  .group .registerFile name offset [.group .registerFile "r" 4 []]

/-- An address map of two register files of one shape. -/
def twoFiles : Description :=
  .group .addressMap "top" 0 [nestedFile "a" 0, nestedFile "b" 16]

/-- The hashes of the first two nodes of a tree, what their types tell, and what is remembered after
asking for that. -/
def askedViews (e : Export Unit) :
    Except ExportFault (TypeHash × TypeHash × TypeView × TypeView) × ExportMemory Unit :=
  (do return (← e.typeHash (e.tree.top.part 0), ← e.typeHash (e.tree.top.part 1),
    ← e.view (e.tree.top.part 0), ← e.view (e.tree.top.part 1))).run (.empty ())

/-- What is hashed for the first two nodes of a tree. -/
def inputsOfViews (e : Export Unit) : List HashItem :=
  let screen := (askedViews e).2.screen
  screen.hashed e.hasher e.tree (e.tree.top.part 0) ++
    screen.hashed e.hasher e.tree (e.tree.top.part 1)

/-- What the type of the two register files tells. -/
def fileView : TypeView where
  kind := .registerFile
  members := [⟨"r", "r", 4, none, .registerFile, .hash (-59058931695325490)⟩]
  memory := none
  field := none

/-- Register files of one shape have one hash, and what is told of one of them is true of the other
one. -/
theorem files_tell_the_same : ∃ view view', (askedViews (quick twoFiles.tree)).1 =
    .ok (.hash 3029149279211284612, .hash 3029149279211284612, view, view') ∧ view = view' := by
  have ht : twoFiles.tree.Loaded := Description.loaded_tree (by decide +kernel)
  have hask : (askedViews (quick twoFiles.tree)).1 =
      .ok (.hash 3029149279211284612, .hash 3029149279211284612, fileView, fileView) := by
    decide +kernel
  have hfree : (quick twoFiles.tree).hasher.CollisionFree (inputsOfViews (quick twoFiles.tree)) := by
    decide +kernel
  have hkind : (twoFiles.tree.top.part 0).node.kind ≠ .register := by decide +kernel
  have hfirst := Place.part_mem_subtree twoFiles.tree.top.mem_subtree_self 0
  have hsecond := Place.part_mem_subtree twoFiles.tree.top.mem_subtree_self 1
  have hrun : askedViews (quick twoFiles.tree) = (.ok (.hash 3029149279211284612,
    .hash 3029149279211284612, fileView, fileView), (askedViews (quick twoFiles.tree)).2) := by
    rw [← hask]
  have hsame : fileView = fileView :=
    shared_view_eq (e := quick twoFiles.tree) ht (.fresh ()) hfirst hsecond hkind hrun hfree
  exact ⟨fileView, fileView, hask, hsame⟩

end Export

end RegisterMap
