import RegisterMap.Text.Runs

/-!
# Sets of characters

A set of characters is kept as the ranges of its code points, in ascending order and with a gap
between any two of them, so that equal sets have equal ranges.  Sets are made from ranges in any
order by sorting and joining; the complement takes the gaps, and the other operations of set algebra
come from union and complement.
-/

namespace RegisterMap

/-- A set of characters: the first and last code points of its ranges, in ascending order and with
gaps between them. -/
structure CharSet where
  /-- The first and last code points of the ranges. -/
  ranges : List (Nat × Nat)
deriving DecidableEq, Repr, Inhabited

namespace CharSet

/-- The last code point. -/
def lastCode : Nat := 0x10ffff

/-- The code point is in the set. -/
def hasCode (s : CharSet) (n : Nat) : Bool := s.ranges.any fun r => r.1 ≤ n && n ≤ r.2

/-- The character is in the set. -/
def contains (s : CharSet) (c : Char) : Bool := s.hasCode c.toNat

/-! ## Making sets -/

/-- Joins neighbouring ranges of a sorted list. -/
def joined : List (Nat × Nat) → List (Nat × Nat)
  | (a, b) :: (c, d) :: rest =>
    if c ≤ b + 1 then joined ((a, max b d) :: rest) else (a, b) :: joined ((c, d) :: rest)
  | ranges => ranges
termination_by ranges => ranges.length

/-- The set of the code points in ranges. -/
def ofRanges (ranges : List (Nat × Nat)) : CharSet :=
  ⟨joined (ranges.mergeSort fun a b => a.1 ≤ b.1)⟩

def none : CharSet := ⟨[]⟩

def all : CharSet := ⟨[(0, lastCode)]⟩

/-- The characters between two code points, both included. -/
def range (low high : Nat) : CharSet := ⟨[(low, high)]⟩

def single (c : Char) : CharSet := range c.toNat c.toNat

/-- The set of the characters in a list. -/
def ofChars (cs : List Char) : CharSet := ofRanges (cs.map fun c => (c.toNat, c.toNat))

/-- The set that the lines of a table write, a range a word. -/
def ofLines (lines : List String) : CharSet := ofRanges ((Text.tableWords lines).map Text.wordRange)

/-! ## Set algebra -/

/-- The characters in one of two sets. -/
def union (a b : CharSet) : CharSet := ofRanges (a.ranges ++ b.ranges)

/-- The characters in one of the sets of a list. -/
def unions (sets : List CharSet) : CharSet := ofRanges (sets.flatMap ranges)

/-- The gaps of ascending ranges from a code point up to a last one. -/
def gaps (last next : Nat) : List (Nat × Nat) → List (Nat × Nat)
  | [] => if next ≤ last then [(next, last)] else []
  | (a, b) :: rest => if next < a then (next, a - 1) :: gaps last (b + 1) rest else gaps last (b + 1) rest

/-- The code points up to a last one that are not in the set. -/
def complUpTo (last : Nat) (s : CharSet) : CharSet := ⟨gaps last 0 s.ranges⟩

/-- The characters that are not in the set. -/
def compl (s : CharSet) : CharSet := s.complUpTo lastCode

/-- The characters in both of two sets. -/
def inter (a b : CharSet) : CharSet := (a.compl.union b.compl).compl

/-- The characters in one set but not in another. -/
def diff (a b : CharSet) : CharSet := (a.compl.union b).compl

/-- The characters in exactly one of two sets. -/
def symmDiff (a b : CharSet) : CharSet := (a.diff b).union (b.diff a)

/-- Every member is an ASCII character. -/
def isAscii (s : CharSet) : Bool := s.ranges.all fun r => r.2 < 0x80

end CharSet

end RegisterMap
