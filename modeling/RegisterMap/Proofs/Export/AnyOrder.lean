import Mathlib
import RegisterMap.Proofs.Export.Position

/-!
# Questions in any order

While a package is made, an export is asked for hashes, children and hidden nodes as they come up,
and it remembers hashes, accessor names and the answers about hidden nodes.  A question may also
fail halfway, with a part of these filled in.

`Export.answers` puts any list of questions to one export, one after the other and whatever became
of those before.  One question leaves the memory right (`answers_answer`), so by induction every
question is answered as by plain recursion on the tree (`answers_in_any_order`), where nothing is
remembered (`ShapeQuestion.plain`).
-/

namespace RegisterMap

/-! ## Questions and answers -/

/-- The placed hash of a place, by plain recursion on its tree. -/
def Place.placedHash (p : Place) (h : Hasher) (hide : Hiding) (t : RegisterTree) :
    Except ExportFault ℤ :=
  RegisterMap.placedHash h t (hide.queries t) p

/-- What an export is asked about a place of its tree. -/
inductive ShapeQuestion where
  | typeHash (p : Place)
  | placedHash (p : Place)
  | children (p : Place)
  | isHidden (p : Place)

/-- What an export answers with. -/
inductive ShapeAnswer where
  | typeHash (type : TypeHash)
  | placedHash (hash : ℤ)
  | children (accessors : Accessors)
  | isHidden (hidden : Bool)

namespace ShapeQuestion

/-- The place that is asked about. -/
def place : ShapeQuestion → Place
  | typeHash p | placedHash p | children p | isHidden p => p

/-- The answer without any memory. -/
def plain (h : Hasher) (hide : Hiding) (t : RegisterTree) :
    ShapeQuestion → Except ExportFault ShapeAnswer
  | typeHash p => do pure (.typeHash (← p.typeHash h hide t))
  | placedHash p => do pure (.placedHash (← p.placedHash h hide t))
  | children p => pure (.children (hide.accessors t p))
  | isHidden p => pure (.isHidden (hide.isHidden t p))

end ShapeQuestion

namespace Export

variable {σ : Type}

/-- Asks an export a question. -/
def answer (e : Export σ) : ShapeQuestion → Exporting σ ShapeAnswer
  | .typeHash p => do pure (.typeHash (← e.typeHash p))
  | .placedHash p => do pure (.placedHash (← e.placedHash p))
  | .children p => do pure (.children (← e.children p))
  | .isHidden p => do pure (.isHidden (← e.isHidden p))

/-- Asks one question after the other.  Each one meets the memory that the one before it left,
whether that was answered or not. -/
def answers (e : Export σ) :
    List ShapeQuestion → ExportMemory σ → List (Except ExportFault ShapeAnswer) × ExportMemory σ
  | [], memory => ([], memory)
  | q :: rest, memory =>
    let (first, memory) := (e.answer q).run memory
    let (others, memory) := e.answers rest memory
    (first :: others, memory)

end Export

/-! ## The memory stays right -/

section

variable {σ : Type} {h : Hasher} {hide : Hiding} {t : RegisterTree} {root : Place}

/-- A question is answered as without a memory, and leaves the memory right. -/
theorem answers_answer (hroot : root.Distinct) {q : ShapeQuestion} (hq : q.place ∈ root.subtree) :
    Answers (ExportMemory.Right h hide t root)
      (Export.answer ⟨t, hide, .nothing, h⟩ q : Exporting σ ShapeAnswer) (q.plain h hide t) := by
  cases q with
  | typeHash p => exact (answers_typeHash hroot hq).bind fun type _ => .pure _
  | placedHash p =>
    have hplaced : Answers (ExportMemory.Right h hide t root)
        (Export.placedHash ⟨t, hide, .nothing, h⟩ p : Exporting σ ℤ) (p.placedHash h hide t) :=
      (answers_typeHash hroot hq).bind fun type _ => .pure _
    exact hplaced.bind fun hash _ => .pure _
  | children p => exact (answers_children hroot hq).step (.pure _)
  | isHidden p => exact (answers_asking (answers_askHidden hroot hq)).step (.pure _)

/-- All questions are answered as without a memory, and leave the memory right. -/
theorem answers_run (hroot : root.Distinct) {questions : List ShapeQuestion}
    (hplaces : ∀ q ∈ questions, q.place ∈ root.subtree) {memory : ExportMemory σ}
    (hmemory : memory.Right h hide t root) :
    ((Export.answers ⟨t, hide, .nothing, h⟩ questions memory).1 =
      questions.map (ShapeQuestion.plain h hide t)) ∧
      (Export.answers ⟨t, hide, .nothing, h⟩ questions memory).2.Right h hide t root := by
  induction questions generalizing memory with
  | nil => exact ⟨rfl, hmemory⟩
  | cons q rest ih =>
    obtain ⟨hfirst, hmemory'⟩ := answers_answer hroot (hplaces q List.mem_cons_self) memory hmemory
    obtain ⟨hothers, hright⟩ := ih (fun q' hq' => hplaces q' (List.mem_cons_of_mem q hq')) hmemory'
    exact ⟨congrArg₂ List.cons hfirst hothers, hright⟩

end

/-- An export that hides nothing beyond what its configuration says may be asked any questions about
any nodes of a loaded tree, in any order and any number of times.  Each answer, value or fault, is
the one that plain recursion gives, and the one that an export gives that was asked nothing else. -/
theorem Export.answers_in_any_order {σ : Type} {t : RegisterTree} (ht : t.Loaded) (h : Hasher)
    (hide : Hiding) (s : σ) (questions : List ShapeQuestion)
    (hplaces : ∀ q ∈ questions, q.place ∈ t.places) :
    let e : Export σ := ⟨t, hide, .nothing, h⟩
    (e.answers questions (.empty s)).1 = questions.map (ShapeQuestion.plain h hide t) ∧
      (e.answers questions (.empty s)).1 =
        questions.map fun q => ((e.answer q).run (.empty s)).1 := by
  intro e
  have hempty : (ExportMemory.empty s).Right h hide t ⟨[], t.root⟩ := ExportMemory.right_empty s
  have hanswers := (answers_run ht.distinct_root hplaces hempty).1
  refine ⟨hanswers, hanswers.trans (List.map_congr_left fun q hq => ?_)⟩
  exact (answers_answer ht.distinct_root (hplaces q hq) _ hempty).1.symm

section

attribute [local instance] Export.smallRun

/-- A signal has no hash, whether it is asked for before or after the hash of the register file
around it, which is not affected. -/
theorem signal_fails_in_between :
    let t := Export.twoSignals.tree
    let file := t.top.part 0
    let signal := file.part 0
    let e : Export Unit := ⟨t, ⟨true, []⟩, .nothing, .ofConfig {}⟩
    let fault : Except ExportFault ShapeAnswer := .error (.unsupportedKind "top.a.s" .signal)
    (e.answers [.typeHash signal, .typeHash file, .isHidden signal, .typeHash signal]
        (.empty ())).1 =
      [fault, .ok (.typeHash (.hash 6956750379296433775)), .ok (.isHidden true), fault] := by
  intro t file signal e fault
  have ht : t.Loaded := Description.loaded_tree (by decide +kernel)
  have hfile : file ∈ t.places := Place.part_mem_subtree (q := ⟨[], t.root⟩) ht.numbered.2 0
  have hsignal : signal ∈ t.places := Place.part_mem_subtree (q := ⟨[], t.root⟩) hfile 0
  have hanswers := (Export.answers_in_any_order ht (.ofConfig {}) ⟨true, []⟩ ()
    [.typeHash signal, .typeHash file, .isHidden signal, .typeHash signal]
    (by simp [ShapeQuestion.place, hfile, hsignal])).1
  have hfault : signal.typeHash (.ofConfig {}) ⟨true, []⟩ t =
      .error (.unsupportedKind "top.a.s" .signal) := by decide +kernel
  have hhash : file.typeHash (.ofConfig {}) ⟨true, []⟩ t = .ok (.hash 6956750379296433775) := by
    decide +kernel
  have hhidden : (⟨true, []⟩ : Hiding).isHidden t signal = true := by decide +kernel
  simp only [List.map_cons, List.map_nil, ShapeQuestion.plain, hfault, hhash, hhidden] at hanswers
  exact hanswers

end

end RegisterMap
