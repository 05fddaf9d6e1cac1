import Mathlib
import RegisterMap.Export.Plan

/-!
# The recursions of an export

The hash of a node is remembered, or computed from what its shown children contribute.  Two equations
say so in terms of places (`typeHash_eq`, `contributions_cons`): the hash of a shape, and the
contribution of one child, are computations of their own.  Two more say what the walk does with a
node and with the first of several nodes (`Walk.visit_eq`, `Walk.visitShown_cons`).

Every field has a hash: the check that two elements are those of a plain field never fails
(`Hasher.fieldHash_eq`).
-/

namespace RegisterMap

namespace Hasher

/-- The hash of a field, without any check. -/
def fieldType (h : Hasher) (c : Component) (f : FieldDetail) : TypeHash :=
  if (h.commonItems c ++ h.fieldItems f).length = 2 then .plain
  else .hash (h.digest (h.fieldInput c f))

/-- Two elements of a field are its kind and its access. -/
lemma isSentinel_of_length (h : Hasher) {c : Component} {f : FieldDetail} (hf : c.detail = .field f)
    (hlength : (h.commonItems c ++ h.fieldItems f).length = 2) :
    isSentinel (h.commonItems c ++ h.fieldItems f) = true := by
  obtain ⟨others, hcommon⟩ : ∃ others, h.commonItems c = .text c.kind.tag :: others := ⟨_, rfl⟩
  obtain ⟨encoding, hitems⟩ : ∃ encoding, h.fieldItems f = .text f.access.keyword :: encoding :=
    ⟨_, rfl⟩
  have hkind : c.kind.tag = "Field" := by rw [Component.kind, hf, Detail.kind, NodeKind.tag]
  rw [hcommon, hitems] at hlength ⊢
  simp only [List.cons_append, List.length_cons, List.length_append] at hlength
  obtain rfl : others = [] := List.eq_nil_of_length_eq_zero (by omega)
  obtain rfl : encoding = [] := List.eq_nil_of_length_eq_zero (by omega)
  rw [hkind]
  cases f.access <;> rfl

theorem fieldHash_eq (h : Hasher) (path : String) {c : Component} {f : FieldDetail}
    (hf : c.detail = .field f) : h.fieldHash path c f = .ok (h.fieldType c f) := by
  unfold fieldHash fieldType
  dsimp only
  split
  · next hlength => rw [if_pos (h.isSentinel_of_length hf hlength)]
  · rfl

end Hasher

variable {m : Type → Type} [Monad m] [MonadExceptOf ExportFault m]

/-- The hash of a place, computed whether or not it is known. -/
def shapeOf (h : Hasher) (t : RegisterTree) (q : ShapeQueries m) (p : Place) : m TypeHash :=
  match p.node.detail with
  | .signal => throw (.unsupportedKind (t.path p) .signal)
  | .field f => pure (h.fieldType p.node.component f)
  | _ => do
    let children ← q.children p
    let inputs ← contributions h t q (p.node :: p.above) (p.node.kind == .register) children
      p.node.children
    pure (h.nodeHash p.node.component (children.map (·.1.node)) inputs)

/-- What a shown child contributes to the node around it. -/
def contributionOf (h : Hasher) (t : RegisterTree) (q : ShapeQueries m) (inRegister : Bool)
    (child : Place) (accessor : String) : m HashItem :=
  if inRegister then
    match child.node.detail with
    | .field f => do
      let type ← typeHash h t q child.above child.node
      pure (Hasher.fieldContribution child.node.component f type accessor)
    | _ => throw (.unsupportedKind (t.path child) child.node.kind)
  else do
    let type ← typeHash h t q child.above child.node
    pure (h.nodeContribution child.node.component type accessor)

variable [LawfulMonad m] (h : Hasher) (t : RegisterTree) (q : ShapeQueries m)

theorem typeHash_eq (p : Place) : typeHash h t q p.above p.node =
    q.known p.id >>= fun
      | some known => pure known
      | none => (do
        let computed ← shapeOf h t q p
        q.remember p.id computed
        pure computed) := by
  obtain ⟨above, ⟨id, c, cs⟩⟩ := p
  rw [typeHash]
  refine congrArg (q.known id >>= ·) (funext fun known => ?_)
  cases known with
  | some known => rfl
  | none =>
    unfold shapeOf
    simp only [Node.detail, Node.component]
    cases hdetail : c.detail with
    | field f =>
      simp only [h.fieldHash_eq _ hdetail]
      rfl
    | signal => rfl
    | _ =>
      simp only [Node.kind, Node.component, Node.children, bind_assoc, pure_bind]
      rfl

theorem contributions_cons (above : List Node) (inRegister : Bool) (children : Accessors) (n : Node)
    (rest : List Node) : contributions h t q above inRegister children (n :: rest) =
      match children.find? fun child => child.1.id == n.id with
      | none => contributions h t q above inRegister children rest
      | some (_, accessor) => (do
        let item ← contributionOf h t q inRegister ⟨above, n⟩ accessor
        let items ← contributions h t q above inRegister children rest
        pure (item :: items)) := by
  obtain ⟨id, c, cs⟩ := n
  rw [contributions]
  simp only [Node.id]
  generalize children.find? (fun child => child.1.id == id) = found
  obtain _ | ⟨child, accessor⟩ := found
  · rfl
  · unfold contributionOf
    simp only [Node.detail, Node.component]
    cases inRegister
    · simp
    · cases c.detail <;> simp [Node.kind, Node.component]

namespace Walk

omit [LawfulMonad m] in
lemma visit_eq (p : Place) : visit h t q p.above p.node = (do
    match ← (typeHash h t q p.above p.node : m TypeHash) with
    | .plain => change fun plan => { plan with typeOf := (p.id, none) :: plan.typeOf }
    | .hash hash =>
      if ← addType h t p hash then
        let children ← q.children p
        change fun plan => { plan with children := (p.id, children) :: plan.children }
        visitShown h t q (p.node :: p.above) children p.node.children) := by
  obtain ⟨above, ⟨id, c, cs⟩⟩ := p
  rw [visit]
  rfl

omit [LawfulMonad m] in
lemma visitShown_cons (above : List Node) (children : Accessors) (n : Node) (rest : List Node) :
    visitShown h t q above children (n :: rest) =
      if children.any fun child => child.1.id == n.id then
        visit h t q above n >>= fun _ => visitShown h t q above children rest
      else visitShown h t q above children rest := by
  obtain ⟨id, c, cs⟩ := n
  rw [visitShown]
  rfl

end Walk

/-! ## Several children -/

/-- Only the accessors of the nodes in question count. -/
lemma contributions_congr {above : List Node} {inRegister : Bool} {children children' : Accessors}
    {cs : List Node} (hfind : ∀ n ∈ cs, children.find? (fun child => child.1.id == n.id) =
      children'.find? fun child => child.1.id == n.id) :
    contributions h t q above inRegister children cs =
      contributions h t q above inRegister children' cs := by
  induction cs with
  | nil => rfl
  | cons n rest ih =>
    rw [contributions_cons, contributions_cons, hfind n List.mem_cons_self,
      ih fun k hk => hfind k (List.mem_cons_of_mem _ hk)]

/-- Where the shown children are among some nodes with different numbers, in their order, they
contribute one after the other. -/
theorem contributions_eq_mapM {above : List Node} {inRegister : Bool} {cs : List Node}
    {children : Accessors} (hnodup : (cs.map Node.id).Nodup)
    (hsub : (children.map Prod.fst).Sublist (cs.map fun n => ⟨above, n⟩)) :
    contributions h t q above inRegister children cs =
      children.mapM fun child => contributionOf h t q inRegister child.1 child.2 := by
  induction cs generalizing children with
  | nil =>
    have hnil : children = [] := by simpa using hsub
    rw [hnil, contributions, List.mapM_nil]
  | cons n rest ih =>
    rw [List.map_cons, List.nodup_cons] at hnodup
    have hother : ∀ (accessors : Accessors) (k : ℕ), k ∉ rest.map Node.id →
        (accessors.map Prod.fst).Sublist (rest.map fun n => ⟨above, n⟩) →
        ∀ child ∈ accessors, child.1.id ≠ k := by
      intro accessors k hk haccessors child hchild heq
      obtain ⟨n', hn', heq'⟩ := List.mem_map.1 (haccessors.subset (List.mem_map_of_mem hchild))
      rw [← heq'] at heq
      exact hk (heq ▸ List.mem_map_of_mem hn')
    rw [contributions_cons]
    rcases List.sublist_cons_iff.1 hsub with hsub | ⟨places, hplaces, hsub⟩
    · -- `n` is not shown
      rw [List.find?_eq_none.2 fun child hchild heq =>
        hother children n.id hnodup.1 hsub child hchild (by simpa using heq)]
      exact ih hnodup.2 hsub
    · obtain ⟨⟨p, accessor⟩, children, rfl, rfl, rfl⟩ := List.map_eq_cons_iff.1 hplaces
      have hskip : contributions h t q above inRegister ((⟨above, n⟩, accessor) :: children) rest =
          contributions h t q above inRegister children rest := by
        refine contributions_congr h t q fun k hk => List.find?_cons_of_neg fun heq => hnodup.1 ?_
        have hid : n.id = k.id := eq_of_beq heq
        exact hid ▸ List.mem_map_of_mem hk
      rw [List.find?_cons_of_pos (by simp [Place.id]), List.mapM_cons, hskip, ih hnodup.2 hsub]

end RegisterMap
