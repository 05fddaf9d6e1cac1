import RegisterMap.Text.Blank

/-!
# Documentation comments

The name and the description of a node as the lines of a documentation comment.
-/

namespace RegisterMap

/-- The comment line that shows a text. -/
def commentLine (text : List Char) : String :=
  if text.isEmpty then "///" else "/// " ++ String.ofList text

/-- The lines of the comment for an optional name and an optional description.  Blanks around the
name and at the end of a line of the description are dropped, and an empty line separates the two. -/
def commentLines (name desc : Option String) : List String :=
  let nameLines := (name.map fun n => "/// " ++ String.ofList (Text.trim n.toList)).toList
  let descLines :=
    match desc with
    | none => []
    | some d =>
      (if name.isSome then ["///"] else []) ++
        (Text.lines d.toList).map fun line => commentLine (Text.trimRight line)
  nameLines ++ descLines

end RegisterMap
