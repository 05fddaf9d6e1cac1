/-!
# Lines of code

Generated code as a list of lines without their ends.  A block is a first line, an indented body and
a last line, so the indentation of nested code is never counted by hand.
-/

namespace RegisterMap

/-- Lines of code without their ends. -/
abbrev Lines := List String

namespace Lines

/-- The lines one level deeper; empty lines stay empty. -/
def indented (ls : Lines) : Lines := ls.map fun l => if l.isEmpty then l else "    " ++ l

/-- A body between a first and a last line. -/
def group (first last : String) (body : Lines) : Lines := first :: indented body ++ [last]

/-- A body in braces after a head. -/
def block (head : String) (body : Lines) : Lines := group (head ++ " \x7b") "\x7d" body

/-- The lines after an empty one. -/
def apart (ls : Lines) : Lines := "" :: ls

/-- The lines if a condition holds. -/
def onlyIf (condition : Bool) (ls : Lines) : Lines := if condition then ls else []

/-- The lines as text, each with its end. -/
def toText (ls : Lines) : String := ls.foldl (fun text l => text ++ l ++ "\n") ""

end Lines

end RegisterMap
