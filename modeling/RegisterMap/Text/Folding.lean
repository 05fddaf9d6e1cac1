import RegisterMap.Text.Case
import RegisterMap.Text.CharSet

/-!
# Characters that differ in case alone

The simple case folding of Unicode 16 sends every character to the representative of the characters
that differ from it in case alone.  A set is closed under change of case by adding what its members
fold to, and then everything that folds to what is there; both steps are moves of ranges.
-/

namespace RegisterMap

namespace Text

/-- The runs of the simple case folding. -/
def foldingLines : List String :=
  ["41 1a+20 5a 1+307 a 17+20 1 7+20 21 1+1 1 1+1 1 1+1 1 1+1 1 1+1 1 1+1 1 1+1 1 1+1 1 1+1 1 1+1",
   "1 1+1 1 1+1 1 1+1 1 1+1 1 1+1 1 1+1 1 1+1 1 1+1 1 1+1 1 1+1 1 1+1 1 1+1 1 1+1 1 1+1 3 1+1 1",
   "1+1 1 1+1 2 1+1 1 1+1 1 1+1 1 1+1 1 1+1 1 1+1 1 1+1 1 1+1 2 1+1 1 1+1 1 1+1 1 1+1 1 1+1 1 1+1",
   "1 1+1 1 1+1 1 1+1 1 1+1 1 1+1 1 1+1 1 1+1 1 1+1 1 1+1 1 1+1 1 1+1 1 1+1 1 1+1 1 1+1 1 1+1 1",
   "1+1 1 1+1 1 1-79 1+1 1 1+1 1 1+1 1 1-10c 1 1+d2 1+1 1 1+1 1 1+ce 1+1 1 2+cd 1+1 2 1+4f 1+ca",
   "1+cb 1+1 1 1+cd 1+cf 1 1+d3 1+d1 1+1 3 1+d3 1+d5 1 1+d6 1+1 1 1+1 1 1+1 1 1+da 1+1 1 1+da 2",
   "1+1 1 1+da 1+1 1 2+d9 1+1 1 1+1 1 1+db 1+1 3 1+1 7 1+2 1+1 1 1+2 1+1 1 1+2 1+1 1 1+1 1 1+1 1",
   "1+1 1 1+1 1 1+1 1 1+1 1 1+1 1 1+1 2 1+1 1 1+1 1 1+1 1 1+1 1 1+1 1 1+1 1 1+1 1 1+1 1 1+1 2 1+2",
   "1+1 1 1+1 1 1-61 1-38 1+1 1 1+1 1 1+1 1 1+1 1 1+1 1 1+1 1 1+1 1 1+1 1 1+1 1 1+1 1 1+1 1 1+1 1",
   "1+1 1 1+1 1 1+1 1 1+1 1 1+1 1 1+1 1 1+1 1 1+1 1 1-82 1 1+1 1 1+1 1 1+1 1 1+1 1 1+1 1 1+1 1",
   "1+1 1 1+1 1 1+1 7 1+2a2b 1+1 1 1-a3 1+2a28 2 1+1 1 1-c3 1+45 1+47 1+1 1 1+1 1 1+1 1 1+1 1 1+1",
   "f6 1+74 2a 1+1 1 1+1 3 1+1 8 1+74 6 1+26 1 3+25 1 1+40 1 2+3f 1 11+20 1 9+20 16 1+1 c 1+8",
   "1-1e 1-19 3 1-f 1-16 1 1+1 1 1+1 1 1+1 1 1+1 1 1+1 1 1+1 1 1+1 1 1+1 1 1+1 1 1+1 1 1+1 1 1+1",
   "1 1-36 1-30 2 1-3c 1-40 1 1+1 1 1-7 1+1 2 3-82 10+50 20+20 30 1+1 1 1+1 1 1+1 1 1+1 1 1+1 1",
   "1+1 1 1+1 1 1+1 1 1+1 1 1+1 1 1+1 1 1+1 1 1+1 1 1+1 1 1+1 1 1+1 1 1+1 9 1+1 1 1+1 1 1+1 1 1+1",
   "1 1+1 1 1+1 1 1+1 1 1+1 1 1+1 1 1+1 1 1+1 1 1+1 1 1+1 1 1+1 1 1+1 1 1+1 1 1+1 1 1+1 1 1+1 1",
   "1+1 1 1+1 1 1+1 1 1+1 1 1+1 1 1+1 1 1+1 1 1+1 1 1+f 1+1 1 1+1 1 1+1 1 1+1 1 1+1 1 1+1 1 1+1 2",
   "1+1 1 1+1 1 1+1 1 1+1 1 1+1 1 1+1 1 1+1 1 1+1 1 1+1 1 1+1 1 1+1 1 1+1 1 1+1 1 1+1 1 1+1 1 1+1",
   "1 1+1 1 1+1 1 1+1 1 1+1 1 1+1 1 1+1 1 1+1 1 1+1 1 1+1 1 1+1 1 1+1 1 1+1 1 1+1 1 1+1 1 1+1 1",
   "1+1 1 1+1 1 1+1 1 1+1 1 1+1 1 1+1 1 1+1 1 1+1 1 1+1 1 1+1 1 1+1 1 1+1 1 1+1 1 1+1 1 1+1 1 1+1",
   "1 1+1 2 26+30 b49 26+1c60 1 1+1c60 5 1+1c60 32a 6-8 882 1-184e 1-184d 1-1844 2-1842 1-1843",
   "1-183c 1-1824 1+89c3 1+1 6 2b-bc0 2 3-bc0 140 1+1 1 1+1 1 1+1 1 1+1 1 1+1 1 1+1 1 1+1 1 1+1 1",
   "1+1 1 1+1 1 1+1 1 1+1 1 1+1 1 1+1 1 1+1 1 1+1 1 1+1 1 1+1 1 1+1 1 1+1 1 1+1 1 1+1 1 1+1 1 1+1",
   "1 1+1 1 1+1 1 1+1 1 1+1 1 1+1 1 1+1 1 1+1 1 1+1 1 1+1 1 1+1 1 1+1 1 1+1 1 1+1 1 1+1 1 1+1 1",
   "1+1 1 1+1 1 1+1 1 1+1 1 1+1 1 1+1 1 1+1 1 1+1 1 1+1 1 1+1 1 1+1 1 1+1 1 1+1 1 1+1 1 1+1 1 1+1",
   "1 1+1 1 1+1 1 1+1 1 1+1 1 1+1 1 1+1 1 1+1 1 1+1 1 1+1 1 1+1 1 1+1 1 1+1 1 1+1 1 1+1 1 1+1 1",
   "1+1 1 1+1 1 1+1 1 1+1 1 1+1 6 1-3a 2 1-1dbf 1 1+1 1 1+1 1 1+1 1 1+1 1 1+1 1 1+1 1 1+1 1 1+1 1",
   "1+1 1 1+1 1 1+1 1 1+1 1 1+1 1 1+1 1 1+1 1 1+1 1 1+1 1 1+1 1 1+1 1 1+1 1 1+1 1 1+1 1 1+1 1 1+1",
   "1 1+1 1 1+1 1 1+1 1 1+1 1 1+1 1 1+1 1 1+1 1 1+1 1 1+1 1 1+1 1 1+1 1 1+1 1 1+1 1 1+1 1 1+1 1",
   "1+1 1 1+1 1 1+1 1 1+1 1 1+1 1 1+1 1 1+1 1 1+1 1 1+1 9 8-8 8 6-8 a 8-8 8 8-8 8 6-8 b 1-8 1 1-8",
   "1 1-8 1 1-8 8 8-8 18 8-8 8 8-8 8 8-8 8 2-8 2-4a 1-9 1 1-1c05 9 4-56 1-9 6 1-1c43 4 2-8 2-64 7",
   "1-1c33 4 2-8 2-70 1-7 b 2-80 2-7e 1-9 129 1-1d5d 3 1-20bf 1-2046 6 1+1c 2d 10+10 13 1+1 332",
   "1a+1a 730 30+30 30 1+1 1 1-29f7 1-ee6 1-29e7 2 1+1 1 1+1 1 1+1 1 1-2a1c 1-29fd 1-2a1f 1-2a1e",
   "1 1+1 2 1+1 8 2-2a3f 1+1 1 1+1 1 1+1 1 1+1 1 1+1 1 1+1 1 1+1 1 1+1 1 1+1 1 1+1 1 1+1 1 1+1 1",
   "1+1 1 1+1 1 1+1 1 1+1 1 1+1 1 1+1 1 1+1 1 1+1 1 1+1 1 1+1 1 1+1 1 1+1 1 1+1 1 1+1 1 1+1 1 1+1",
   "1 1+1 1 1+1 1 1+1 1 1+1 1 1+1 1 1+1 1 1+1 1 1+1 1 1+1 1 1+1 1 1+1 1 1+1 1 1+1 1 1+1 1 1+1 1",
   "1+1 1 1+1 1 1+1 1 1+1 1 1+1 1 1+1 1 1+1 8 1+1 1 1+1 4 1+1 794d 1+1 1 1+1 1 1+1 1 1+1 1 1+1 1",
   "1+1 1 1+1 1 1+1 1 1+1 1 1+1 1 1+1 1 1+1 1 1+1 1 1+1 1 1+1 1 1+1 1 1+1 1 1+1 1 1+1 1 1+1 1 1+1",
   "1 1+1 1 1+1 13 1+1 1 1+1 1 1+1 1 1+1 1 1+1 1 1+1 1 1+1 1 1+1 1 1+1 1 1+1 1 1+1 1 1+1 1 1+1 1",
   "1+1 87 1+1 1 1+1 1 1+1 1 1+1 1 1+1 1 1+1 1 1+1 3 1+1 1 1+1 1 1+1 1 1+1 1 1+1 1 1+1 1 1+1 1",
   "1+1 1 1+1 1 1+1 1 1+1 1 1+1 1 1+1 1 1+1 1 1+1 1 1+1 1 1+1 1 1+1 1 1+1 1 1+1 1 1+1 1 1+1 1 1+1",
   "1 1+1 1 1+1 1 1+1 1 1+1 1 1+1 1 1+1 1 1+1 1 1+1 a 1+1 1 1+1 1 1-8a04 1+1 1 1+1 1 1+1 1 1+1 1",
   "1+1 4 1+1 1 1-a528 2 1+1 1 1+1 3 1+1 1 1+1 1 1+1 1 1+1 1 1+1 1 1+1 1 1+1 1 1+1 1 1+1 1 1+1 1",
   "1-a544 1-a54f 1-a54b 1-a541 1-a544 1 1-a512 1-a52a 1-a515 1+3a0 1+1 1 1+1 1 1+1 1 1+1 1 1+1 1",
   "1+1 1 1+1 1 1+1 1 1-30 1-a543 1-8a38 1+1 1 1+1 1 1-a567 1+1 3 1+1 5 1+1 1 1+1 1 1+1 1 1-a641",
   "18 1+1 37a 50-97d0 4f46 1-1 41a 1a+20 4c5 28+28 88 24+28 9c b+27 1 f+27 1 7+27 1 2+27 6ea",
   "33+40 9d 16+20 b3a 20+20 5580 20+20 7aa0 22+22 f16de"]

/-- The simple case folding as a function by runs. -/
def foldingTable : Runs CaseRun := (tableWords foldingLines).map CaseRun.read

/-- A code point moved by a distance. -/
def moved (n : Nat) (delta : Int) : Nat := (n + delta).toNat

/-- The ranges that the simple case folding moves, with the distance, in ascending order. -/
def foldingMoves : List (Nat × Nat × Int) :=
  (foldingTable.spans 0).filterMap fun s => match s.2.2 with
    | .shift delta => some (s.1, s.2.1, delta)
    | _ => none

/-- The ranges that the simple case folding moves to, with the distance back, in ascending order. -/
def foldingReturns : List (Nat × Nat × Int) :=
  (foldingMoves.map fun m => (moved m.1 m.2.2, moved m.2.1 m.2.2, -m.2.2)).mergeSort
    fun a b => a.1 ≤ b.1

end Text

namespace CharSet

/-- The parts of ranges that lie between two code points. -/
def within (ranges : List (Nat × Nat)) (low high : Nat) : List (Nat × Nat) :=
  ((ranges.dropWhile (·.2 < low)).takeWhile (·.1 ≤ high)).map fun r => (max r.1 low, min r.2 high)

/-- Where moves take what they find in ranges; both are in ascending order. -/
def images : List (Nat × Nat) → List (Nat × Nat × Int) → List (Nat × Nat)
  | _, [] => []
  | ranges, (low, high, delta) :: moves =>
    let ranges := ranges.dropWhile (·.2 < low)
    (within ranges low high).map (fun r => (Text.moved r.1 delta, Text.moved r.2 delta)) ++
      images ranges moves

/-- The set closed under change of case. -/
def folded (s : CharSet) : CharSet :=
  let withImages := ofRanges (s.ranges ++ images s.ranges Text.foldingMoves)
  ofRanges (withImages.ranges ++ images withImages.ranges Text.foldingReturns)

/-- The set closed under change of case of the ASCII letters alone. -/
def foldedAscii (s : CharSet) : CharSet :=
  ofRanges (s.ranges ++
    (within s.ranges 0x41 0x5a).map (fun r => (r.1 + 0x20, r.2 + 0x20)) ++
    (within s.ranges 0x61 0x7a).map fun r => (r.1 - 0x20, r.2 - 0x20))

end CharSet

end RegisterMap
