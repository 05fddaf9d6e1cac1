/-!
# Functions on code points given by runs

A property of characters is a function on code points that is constant on long runs.  Such a
function is written down as the list of its runs in order, each with its length; reading the value
at a code point walks the list and counts down.  The tables are kept as text, one word a run or a
range, and this file also holds the readers of numbers and ranges that those words need.
-/

namespace RegisterMap.Text

/-- Runs of code points in order from code point 0, each with its length and the value on it. -/
abbrev Runs (α : Type) := List (Nat × α)

namespace Runs

/-- The value of the run that covers a code point; nothing beyond the last run. -/
def at? {α : Type} : Runs α → Nat → Option α
  | [], _ => none
  | (length, value) :: rest, c => if c < length then some value else at? rest (c - length)

/-- The first and last code points of the runs, with the values on them; `start` is the code point
of the first run. -/
def spans {α : Type} (start : Nat) : Runs α → List (Nat × Nat × α)
  | [] => []
  | (length, value) :: rest => (start, start + length - 1, value) :: spans (start + length) rest

/-- The runs whose value passes a test, as ranges of code points. -/
def ranges {α : Type} (runs : Runs α) (test : α → Bool) : List (Nat × Nat) :=
  (runs.spans 0).filterMap fun s => if test s.2.2 then some (s.1, s.2.1) else none

end Runs

/-! ## Reading tables -/

/-- The value of a hexadecimal digit. -/
def hexDigitValue? (c : Char) : Option Nat :=
  if '0' ≤ c ∧ c ≤ '9' then some (c.toNat - '0'.toNat)
  else if 'a' ≤ c ∧ c ≤ 'f' then some (c.toNat - 'a'.toNat + 10)
  else if 'A' ≤ c ∧ c ≤ 'F' then some (c.toNat - 'A'.toNat + 10)
  else none

/-- The number written by hexadecimal digits; other characters count as zero digits. -/
def hexNumber (digits : List Char) : Nat :=
  digits.foldl (fun acc c => 16 * acc + (hexDigitValue? c).getD 0) 0

/-- The words of the lines of a table. -/
def tableWords (lines : List String) : List (List Char) :=
  lines.flatMap fun line => (line.splitOn " ").map String.toList

/-- The range that a word writes: one code point, or the first and the last with a hyphen between. -/
def wordRange (word : List Char) : Nat × Nat :=
  let low := word.takeWhile (· != '-')
  match word.dropWhile (· != '-') with
  | _ :: high => (hexNumber low, hexNumber high)
  | [] => (hexNumber low, hexNumber low)

end RegisterMap.Text
