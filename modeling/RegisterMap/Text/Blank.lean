import RegisterMap.Text.CharSet

/-!
# Blanks and lines

The blank characters of Unicode, the removal of blanks at the ends of a text, and the lines of a
text.
-/

namespace RegisterMap.Text

/-- The white space of Unicode. -/
def blankSet : CharSet :=
  ⟨[(0x9, 0xd), (0x20, 0x20), (0x85, 0x85), (0xa0, 0xa0), (0x1680, 0x1680), (0x2000, 0x200a),
    (0x2028, 0x2029), (0x202f, 0x202f), (0x205f, 0x205f), (0x3000, 0x3000)]⟩

/-- Blank characters: the white space of Unicode. -/
def isBlank (c : Char) : Bool := blankSet.contains c

/-- The characters without the blanks at their end. -/
def trimRight (cs : List Char) : List Char := (cs.reverse.dropWhile isBlank).reverse

/-- The characters without the blanks at both ends. -/
def trim (cs : List Char) : List Char := trimRight (cs.dropWhile isBlank)

/-- The pieces of a text between line feeds; a text without a line feed is one piece. -/
def splitLines : List Char → List (List Char)
  | [] => [[]]
  | '\n' :: rest => [] :: splitLines rest
  | c :: rest =>
    match splitLines rest with
    | [] => [[c]]
    | line :: lines => (c :: line) :: lines

/-- The lines of a text.  A line ends with a line feed, which may follow a carriage return; what
follows the last line feed is a line unless it is empty. -/
def lines (cs : List Char) : List (List Char) :=
  let pieces := splitLines cs
  let ended := pieces.dropLast.map fun line => if line.getLast? = some '\r' then line.dropLast else line
  match pieces.getLast? with
  | some [] | none => ended
  | some line => ended ++ [line]

end RegisterMap.Text
