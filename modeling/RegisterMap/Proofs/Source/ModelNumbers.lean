import Mathlib
import RegisterMap.Proofs.Source.Numbers
import RegisterMap.Proofs.Source.TestLines
import RegisterMap.Source.Model
import RegisterMap.Source.Scaffold

/-!
# The numbers in the register model

Where the code of a package says where something lies, it is written with the numbers of the tree:
the address of the export root, the offsets, dimensions and strides of children
(`Component.placement`), the ends and the reset values of fields, and the words with which the
simulator begins.  Between them stands code that is always the same, or something that is filled in
(`Rendering.fillings`).
-/

namespace RegisterMap

open Text Lines

/-! ## Pieces of generated code -/

section Pieces

variable {f : Fillings} {base name : String}

/-- The numbers of an address that is at an offset from a named one. -/
def offsetNumbers (offset : ℕ) : List ℕ := if offset = 0 then [] else [offset]

lemma fills_offsetExpression (offset : ℕ) (hbase : Numberless base) :
    Fills f (offsetExpression base offset) (offsetNumbers offset) := by
  have hplus : Cuts " + " ∧ Shows .code .code " + " [] := by decide
  unfold offsetExpression offsetNumbers
  split
  · exact .fixed hbase
  · rw [String.append_assoc]
    exact (Fills.fixed hbase).between hplus.1 hplus.2 (.numeral .constant)

/-- Numbers one after the other, in decimal digits. -/
lemma fills_decimals (ns : List ℕ) : Fills f (String.intercalate ", " (ns.map toString)) ns := by
  have hcomma : Cuts ", " ∧ Shows .code .code ", " [] := by decide
  have hempty : Numberless "" := by decide
  induction ns with
  | nil => exact .fixed hempty
  | cons n ns ih =>
    cases ns with
    | nil =>
      rw [List.map_singleton, String.intercalate_singleton]
      exact .numeral .decimal
    | cons m ns =>
      rw [List.map_cons] at ih
      rw [List.map_cons, List.map_cons, String.intercalate_cons_cons, String.append_assoc]
      exact (Fills.numeral .decimal).between hcomma.1 hcomma.2 ih

/-- A list of numbers stands in its own brackets. -/
lemma Written.numberList {s : Stretch} {l : String} {ms : List ℕ} (ns : List ℕ)
    (rest : Written f .code s l ms) : Written f .code s (numberList ns ++ l) (ns ++ ms) := by
  have hopen : Shows .code .code "[" [] := by decide
  have hclose : Cuts "]" ∧ Shows .code .code "]" [] := by decide
  rw [RegisterMap.numberList, bracketed, String.append_assoc, String.append_assoc]
  exact .code hopen ((fills_decimals ns).before hclose.1 (.code hclose.2 rest))

lemma fills_access (a : Access) : Fills f a.constant [] := by
  have hcode : Numberless a.constant := by
    cases a <;> decide
  exact .fixed hcode

lemma fills_typeName (flavor : Flavor) (hbase : Numberless base ∧ Numberless ("Async" ++ base)) :
    Fills f (flavor.typeName base) [] := by
  cases flavor with
  | blocking => exact .fixed hbase.1
  | asynchronous => exact .fixed hbase.2

/-- The name of a child at run time is a text, in which the name of its parent is filled in. -/
lemma Written.childName {s : Stretch} {back l : String} {ns : List ℕ} (hname : name ∈ f.texts)
    (hback : Shows .text .code back []) (rest : Written f .code s l ns) :
    Written f .code s ("&format!(\"\x7bname\x7d." ++ (name ++ (back ++ l))) ns := by
  have hfront : Shows .code .text "&format!(\"\x7bname\x7d." [] := by decide
  exact .openText hfront (.text (.inl rfl) hname (.closeText hback rest))

end Pieces

/-! ## Children -/

/-- The numbers in the code that makes a child: where it lies from its parent and, of an array, its
dimensions and the distance of its elements. -/
def Component.placement (c : Component) : List ℕ :=
  match c.array with
  | none => offsetNumbers c.offset
  | some a =>
    if c.kind = .register then offsetNumbers c.offset ++ a.dimensions ++ [a.stride]
    else a.dimensions ++ offsetNumbers c.offset ++ [a.stride]

namespace Rendering

/-- What is filled in: the names of types, variants and functions, and in texts and comments the
instance names. -/
def fillings (x : Rendering) : Fillings where
  words := x.plan.records.map (·.identifier) ++ x.plan.enums.map (·.identifier) ++
    x.plan.enums.flatMap (·.encoding.enumeration.variants) ++
    x.plan.records.flatMap fun r => (x.childrenOf r.place).map (·.2)
  texts := x.topName ::
    x.plan.records.flatMap fun r => (x.childrenOf r.place).map (·.1.node.component.instName)

variable {x : Rendering}

section Fillings

variable {r : TypeRecord} {e : EnumRecord} {child : Place × String}

lemma fills_type (hr : r ∈ x.plan.records) : Fills x.fillings r.identifier [] := by
  refine .word ?_
  simp only [fillings, List.mem_append]
  exact .inl (.inl (.inl (List.mem_map_of_mem hr)))

lemma fills_enum (he : e ∈ x.plan.enums) : Fills x.fillings e.identifier [] := by
  refine .word ?_
  simp only [fillings, List.mem_append]
  exact .inl (.inl (.inr (List.mem_map_of_mem he)))

lemma fills_variant (he : e ∈ x.plan.enums) {variant : String}
    (hvariant : variant ∈ e.encoding.enumeration.variants) : Fills x.fillings variant [] := by
  refine .word ?_
  simp only [fillings, List.mem_append]
  exact .inl (.inr (List.mem_flatMap.2 ⟨e, he, hvariant⟩))

lemma fills_accessor (hr : r ∈ x.plan.records) (hchild : child ∈ x.childrenOf r.place) :
    Fills x.fillings child.2 [] := by
  refine .word ?_
  simp only [fillings, List.mem_append]
  exact .inr (List.mem_flatMap.2 ⟨r, hr, List.mem_map_of_mem hchild⟩)

lemma instName_mem_texts (hr : r ∈ x.plan.records) (hchild : child ∈ x.childrenOf r.place) :
    child.1.node.component.instName ∈ x.fillings.texts :=
  List.mem_cons_of_mem _ (List.mem_flatMap.2 ⟨r, hr, List.mem_map_of_mem hchild⟩)

end Fillings

section Children

lemma wrapped_singleton (front back l : String) : wrapped front back [l] = [front ++ l ++ back] := rfl

/-- What stands around a group stands before its first and after its last line. -/
lemma wrapped_group (front back first last : String) (body : Lines) :
    wrapped front back (group first last body) = group (front ++ first) (last ++ back) body := by
  have hrest : body.indented ++ [last] ≠ [] := List.append_ne_nil_of_right_ne_nil _ (by simp)
  unfold group
  rw [List.cons_append, wrapped, List.dropLast_concat, List.getLastD_concat]
  exact hrest

/-- An array of nodes that are no registers. -/
lemma written_nodeArray {f : Fillings} {accessor name id dimensions address : String}
    {ns : List ℕ} {offset : ℕ} (stride : ℕ) (haccessor : Fills f accessor [])
    (hname : name ∈ f.texts) (hid : Fills f id [])
    (hdimensions : dimensions = "vec!" ++ numberList ns)
    (haddress : address = offsetExpression "address" offset) :
    Lines.Written f (wrapped (accessor ++ ": ") ","
      (group s!"NodeArray::try_from_fn({dimensions}, |flat, index| \x7b" "\x7d)?"
        (group s!"{id}::new(" ")"
          ["&format!(\"\x7bname\x7d." ++ name ++ "\x7b\x7d\", index_suffix(index)),",
            s!"{address} + flat as u64 * {constant stride},",
            "callbacks.clone(),"]))) (ns ++ offsetNumbers offset ++ [stride]) := by
  have hfirst : RegisterMap.Written f .code .code
      (accessor ++ ": " ++ s!"NodeArray::try_from_fn({dimensions}, |flat, index| \x7b") ns := by
    have hline : Shows .code .code ", |flat, index| \x7b" [] := by decide
    have hlast := RegisterMap.Written.numberList (f := f) ns (.last hline)
    rw [List.append_nil] at hlast
    simp only [hdimensions, toString_string, String.append_assoc]
    exact haccessor.before (by decide) <| .code (by decide) <| .code (by decide) <|
      .code (by decide) hlast
  have hcall : RegisterMap.Written f .code .code s!"{id}::new(" [] := by
    simp only [toString_string]
    exact hid.beforeLast (by decide) (by decide)
  have helement : RegisterMap.Written f .code .code
      ("&format!(\"\x7bname\x7d." ++ name ++ "\x7b\x7d\", index_suffix(index)),") [] := by
    have hline : Shows .text .code "\x7b\x7d\", index_suffix(index))," [] := by decide
    simp only [String.append_assoc]
    exact .openText (by decide) (.text (.inl rfl) hname (.last hline))
  have helementAddress : RegisterMap.Written f .code .code
      s!"{address} + flat as u64 * {constant stride}," (offsetNumbers offset ++ [stride]) := by
    have hbase : Numberless "address" := by decide
    have hstride : Fills f (constant stride) [stride] := .numeral .constant
    simp only [haddress, toString_string, String.append_assoc]
    exact (fills_offsetExpression offset hbase).before (by decide) <| .code (by decide) <|
      hstride.beforeLast (by decide) (by decide)
  have hbus : Shows .code .code "callbacks.clone()," [] := by decide
  have hclose : Shows .code .code ")" [] := by decide
  have hlast : Shows .code .code ("\x7d)?" ++ ",") [] := by decide
  rw [wrapped_group]
  have hbody := Lines.Written.group hcall
    (.cons helement (.cons helementAddress (.line (.last hbus)))) (.last hclose)
  simpa using Lines.Written.group hfirst hbody (.last hlast)

end Children

/-- A child is made with the numbers of its place. -/
lemma written_childParts {r : TypeRecord} {child : Place × String} {type : String} {lines : Lines}
    (hr : r ∈ x.plan.records) (hchild : child ∈ x.childrenOf r.place)
    (hparts : x.childParts child.1 = .ok (type, lines)) :
    Lines.Written x.fillings (wrapped (child.2 ++ ": ") "," lines)
      child.1.node.component.placement := by
  have haccessor := fills_accessor hr hchild
  have hname := instName_mem_texts hr hchild
  have hbase : Numberless "address" := by decide
  have haddress := fills_offsetExpression (f := x.fillings) child.1.node.component.offset hbase
  have hlast : Shows .code .code "," [] := by decide
  unfold childParts at hparts
  obtain ⟨record, hrecord, hparts⟩ := bind_eq_ok.1 hparts
  have hid := fills_type (typeOf_eq_ok hrecord)
  dsimp only at hparts
  unfold Component.placement
  cases harray : child.1.node.component.array with
  | none =>
    rw [harray] at hparts
    cases hparts
    have hcallbacks : Shows .code .code ", callbacks.clone())?" [] := by decide
    rw [wrapped_singleton, ← List.append_nil (offsetNumbers _)]
    refine .line (s := .code) ?_
    simp only [toString_string, String.append_assoc]
    exact haccessor.before (by decide) <| .code (by decide) <| hid.before (by decide) <|
      .code (by decide) <| .childName hname (by decide) <| .code (by decide) <|
      haddress.before (by decide) <| .code hcallbacks (.last hlast)
  | some a =>
    rw [harray] at hparts
    dsimp only at hparts ⊢
    by_cases hkind : child.1.node.component.kind = .register
    · rw [if_pos hkind] at hparts
      cases hparts
      have htyped : Fills x.fillings (x.flavor.typeName "TypedRegisterArray") [] :=
        fills_typeName _ (by decide)
      have hplain : Fills x.fillings (x.flavor.typeName "RegisterArray") [] :=
        fills_typeName _ (by decide)
      have hstride := Fills.numeral (f := x.fillings) (.constant (n := a.stride))
      rw [if_pos hkind, wrapped_singleton, List.append_assoc]
      refine .line (s := .code) ?_
      simp only [toString_string, String.append_assoc]
      exact haccessor.before (by decide) <| .code (by decide) <| htyped.before (by decide) <|
        .code (by decide) <| hplain.before (by decide) <| .code (by decide) <|
        hid.before (by decide) <| .code (by decide) <| .childName hname (by decide) <|
        .code (by decide) <| haddress.before (by decide) <| .code (by decide) <|
        .code (by decide) <| .numberList a.dimensions <| .code (by decide) <|
        hstride.before (by decide) <| .code (by decide) <| .code (by decide) (.last hlast)
    · rw [if_neg hkind] at hparts
      cases hparts
      rw [if_neg hkind]
      exact written_nodeArray a.stride haccessor hname hid rfl rfl

/-- The children of a node are made with the numbers of their places. -/
lemma written_childInitializers {r : TypeRecord} {children : Accessors} {lines : Lines}
    (hr : r ∈ x.plan.records) (hchildren : ∀ child ∈ children, child ∈ x.childrenOf r.place)
    (hlines : x.childInitializers children = .ok lines) :
    lines.Written x.fillings
      (children.flatMap fun child => child.1.node.component.placement) := by
  unfold childInitializers at hlines
  obtain ⟨parts, hparts, hlines⟩ := bind_eq_ok.1 hlines
  cases hlines
  have hwritten : List.Forall₂ (fun (child : Place × String) (code : Lines) =>
      child ∈ x.childrenOf r.place →
        code.Written x.fillings child.1.node.component.placement) children parts := by
    refine forall₂_of_mapM_eq_ok (fun child code hcode hchild => ?_) hparts
    obtain ⟨⟨type, own⟩, hown, hcode⟩ := bind_eq_ok.1 hcode
    cases hcode
    exact written_childParts hr hchild hown
  clear hlines hparts
  induction hwritten with
  | nil => exact .nil
  | cons hchild _ ih =>
    rw [List.forall_mem_cons] at hchildren
    rw [List.flatten_cons, List.flatMap_cons]
    exact (hchild hchildren.1).append (ih hchildren.2)

/-! ## The root, the fields and the simulator -/

/-- The export root is bound at its address. -/
lemma written_buildFunction {top : TypeRecord} (htop : top ∈ x.plan.records) (base : ℕ) :
    (x.buildFunction top base).Written x.fillings [base] := by
  have hid := fills_type htop
  unfold buildFunction block
  dsimp only
  set bus := x.flavor.typeName "CallbackSet"
  have hbus : Fills x.fillings bus [] := fills_typeName _ (by decide)
  have hcomment : RegisterMap.Written x.fillings .code .comment
      s!"/// Binds the `{x.topName}` address map at {constant base} to `callbacks`." [] := by
    simp only [toString_string, String.append_assoc]
    exact .opening (by decide) <| .text (.inr rfl) List.mem_cons_self <| .comment (by decide) <|
      .comment (oneLine_constant base) (.lastComment (by decide))
  have hhead : RegisterMap.Written x.fillings .code .code
      (s!"pub fn build(callbacks: Arc<dyn {bus}>) -> RalResult<{top.identifier}>" ++ " \x7b") [] := by
    have hline : Shows .code .code " \x7b" [] := by decide
    simp only [toString_string, String.append_assoc]
    exact .code (by decide) <| hbus.before (by decide) <| .code (by decide) <|
      hid.before (by decide) <| .code (by decide) (.last hline)
  have hcall : RegisterMap.Written x.fillings .code .code
      s!"{top.identifier}::new({quoted x.topName}, {constant base}, callbacks)" [base] := by
    have hbase : Fills x.fillings (constant base) [base] := .numeral .constant
    simp only [toString_string, String.append_assoc]
    exact hid.before (by decide) <| .code (by decide) <| .quoted x.topName <| .code (by decide) <|
      hbase.beforeLast (by decide) (by decide)
  have hclose : Shows .code .code "\x7d" [] := by decide
  exact .cons hcomment (.group hhead (.line hcall) (.last hclose))

/-- The layout of a field has its ends and its reset value. -/
lemma written_fieldLayoutSource {child : Place} {f : FieldDetail} :
    RegisterMap.Written x.fillings .code .code (x.fieldLayoutSource child f)
      ([f.geometry.msb, f.geometry.lsb] ++ f.reset.toList) := by
  have hencoding : RegisterMap.Written x.fillings .code .code
      (((x.plan.enumOf? child.id).map fun e => s!".with_encoding({e.identifier}::encoding())").getD ""
        ++ ")") [] := by
    have hlast : Shows .code .code ")" [] := by decide
    cases he : x.plan.enumOf? child.id with
    | none => exact .last hlast
    | some e =>
      simp only [Option.map_some, Option.getD_some, toString_string, String.append_assoc]
      exact .code (by decide) <| (fills_enum (enumOf?_mem he)).before (by decide) <|
        .code (by decide) (.last hlast)
  have hreset : RegisterMap.Written x.fillings .code .code
      ((f.reset.map fun r => s!".with_reset({constant r})").getD "" ++
        (((x.plan.enumOf? child.id).map fun e =>
          s!".with_encoding({e.identifier}::encoding())").getD "" ++ ")")) f.reset.toList := by
    cases f.reset with
    | none => exact hencoding
    | some r =>
      have hr : Fills x.fillings (constant r) [r] := .numeral .constant
      simp only [Option.map_some, Option.getD_some, toString_string, String.append_assoc]
      exact .code (by decide) <| hr.before (by decide) <| .code (by decide) hencoding
  have hmsb : Fills x.fillings (toString f.geometry.msb) [f.geometry.msb] := .numeral .decimal
  have hlsb : Fills x.fillings (toString f.geometry.lsb) [f.geometry.lsb] := .numeral .decimal
  unfold fieldLayoutSource
  dsimp only
  simp only [toString_string, String.append_assoc]
  exact .code (by decide) <| .quoted child.node.instName <| .code (by decide) <|
    .code (by decide) <| hmsb.before (by decide) <| .code (by decide) <| hlsb.before (by decide) <|
    .code (by decide) <| (fills_access f.access).before (by decide) <| .code (by decide) hreset

/-- The simulator begins with the words of the reset values. -/
lemma written_simulatorProgram {f : Fillings} (values : List (ℕ × ℕ)) :
    (simulatorProgram values).Written f (values.flatMap fun (address, word) => [address, word]) := by
  have hwords : Lines.Written f
      (values.map fun (address, word) => s!"({constant address}, {constant word}),")
      (values.flatMap fun (address, word) => [address, word]) := by
    refine .map fun (address, word) _ => ?_
    have haddress : Fills f (constant address) [address] := .numeral .constant
    have hword : Fills f (constant word) [word] := .numeral .constant
    simp only [toString_string, String.append_assoc]
    exact .code (by decide) <| haddress.before (by decide) <| .code (by decide) <|
      hword.beforeLast (by decide) (by decide)
  have hfront : ∀ l ∈ header ++ ["use ral_sim::Simulator;", "use std::sync::Arc;", "",
      "/// Register reset values by byte address. Zero words are left out."], Fixed l := by
    decide
  have hback : ∀ l ∈ apart ("/// Simulator holding every register at its reset value." ::
      block "pub fn simulator() -> Arc<Simulator>"
        ["let sim = Simulator::new();", "sim.preload_all(RESET_VALUES);", "Arc::new(sim)"]),
      Fixed l := by
    decide
  have hopen : Shows .code .code "pub const RESET_VALUES: &[(u64, u64)] = &[" [] := by decide
  have hclose : Shows .code .code "];" [] := by decide
  have hlines := (Lines.Written.fixed (f := f) hfront).append
    ((Lines.Written.group (.last hopen) hwords (.last hclose)).append (.fixed hback))
  simpa [simulatorProgram] using hlines

end Rendering

end RegisterMap
