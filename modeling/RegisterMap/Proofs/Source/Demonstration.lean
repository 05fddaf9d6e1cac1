import Mathlib
import RegisterMap.Proofs.Export.Names
import RegisterMap.Proofs.Json.Writing
import RegisterMap.Proofs.Source.Texts
import RegisterMap.Source.Package

/-!
# The demonstration program

The text of the demonstration program tells which register it reads, if it reads one
(`demoText_inj`): around the lines that read a register the program is always the same, and in these
lines the accessor stands before the first parenthesis.
-/

namespace RegisterMap

namespace Lines

/-! ## Text -/

/-- Lines between the same lines of a block are told apart by the text of the whole. -/
lemma toText_block_inj {before front ls ls' back : Lines} {head : String}
    (h : toText (before ++ block head (front ++ ls ++ back)) =
      toText (before ++ block head (front ++ ls' ++ back))) :
    (indented ls).toText = (indented ls').toText := by
  have hframe (ls : Lines) : before ++ block head (front ++ ls ++ back) =
      (before ++ (head ++ " \x7b") :: indented front) ++ indented ls ++
        (indented back ++ ["\x7d"]) := by
    simp [block, group, indented]
  rw [hframe, hframe] at h
  have htext := congrArg String.toList h
  simp only [toList_toText, List.flatMap_append] at htext
  refine String.toList_injective ?_
  rw [toList_toText, toList_toText]
  exact List.append_cancel_left (List.append_cancel_right htext)

end Lines

open Lines

namespace Rendering

variable (x : Rendering)

/-- What stands before the accessor in the lines that read a register. -/
def beforeAccessor : String :=
  "    match " ++ (if x.flavor.isAsync then "futures::executor::block_on(" else "") ++ "top."

/-- The text of the lines that read a register shows the accessor before a parenthesis. -/
lemma toText_demoRead (accessor : String) : ∃ rest,
    (indented (x.demoRead accessor)).toText.toList =
      x.beforeAccessor.toList ++ accessor.toList ++ '(' :: rest := by
  rw [toList_toText, demoRead, block, group, List.cons_append, indented, List.map_cons,
    List.flatMap_cons, if_neg (by simp)]
  unfold beforeAccessor
  cases x.flavor.isAsync <;> simp [ToString.toString]

variable {x}

/-- The text of the program tells which register it reads. -/
theorem demoText_inj {a b : Option String} (ha : ∀ name ∈ a, Unparenthesized name)
    (hb : ∀ name ∈ b, Unparenthesized name)
    (h : (x.demoProgram ((a.map x.demoRead).getD [])).toText =
      (x.demoProgram ((b.map x.demoRead).getD [])).toText) : a = b := by
  unfold demoProgram at h
  have htext := congrArg String.toList (toText_block_inj h)
  rcases a with _ | a <;> rcases b with _ | b
  · rfl
  · obtain ⟨rest, hrest⟩ := x.toText_demoRead b
    rw [Option.map_some, Option.getD_some, hrest] at htext
    exact absurd htext.symm (by simp [toList_toText, indented])
  · obtain ⟨rest, hrest⟩ := x.toText_demoRead a
    rw [Option.map_some, Option.getD_some, hrest] at htext
    exact absurd htext (by simp [toList_toText, indented])
  · obtain ⟨rest, hrest⟩ := x.toText_demoRead a
    obtain ⟨rest', hrest'⟩ := x.toText_demoRead b
    rw [Option.map_some, Option.getD_some, hrest, Option.map_some, Option.getD_some, hrest',
      List.append_assoc, List.append_assoc] at htext
    have hname := Json.append_inj_of_class (ha a rfl) (hb b rfl) (by simp) (by simp)
      (List.append_cancel_left htext)
    rw [String.toList_injective hname.1]

end Rendering

end RegisterMap
