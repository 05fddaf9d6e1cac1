import RegisterMap.Pattern.Expression

/-!
# Sizes of patterns

A pattern is searched for by a machine that reads bytes, forwards or backwards, with repetitions
written out; a pattern whose machine would be too large is refused.  The size of a machine is counted
here without building it: every state takes a fixed number of bytes, and states with several ways out
take more.

A set of characters is read byte by byte.  Forwards, states from which the same bytes may follow are
one state; backwards, only states that were reached by the same bytes are.
-/

namespace RegisterMap

namespace CharSet

/-- The range of the values of one byte. -/
abbrev ByteRange := Nat × Nat

/-- The last code point that is encoded in so many bytes. -/
def lastOfLength : Nat → Nat
  | 1 => 0x7f
  | 2 => 0x7ff
  | 3 => 0xffff
  | _ => lastCode

/-- The bytes that encode a code point. -/
def encoded (n : Nat) : List Nat :=
  if n < 0x80 then [n]
  else if n < 0x800 then [0xc0 + n / 0x40, 0x80 + n % 0x40]
  else if n < 0x10000 then [0xe0 + n / 0x1000, 0x80 + n / 0x40 % 0x40, 0x80 + n % 0x40]
  else [0xf0 + n / 0x40000, 0x80 + n / 0x1000 % 0x40, 0x80 + n / 0x40 % 0x40, 0x80 + n % 0x40]

/-- The first place after which a range of code points has to be cut so that each piece is a range in
every byte of its encoding. -/
def cutAfter? (low high : Nat) : Option Nat :=
  let byLength := [1, 2, 3].findSome? fun k =>
    let last := lastOfLength k
    if low ≤ last ∧ last < high then some last else Option.none
  byLength <|> if high < 0x80 then Option.none else
    [0x40, 0x1000, 0x40000].findSome? fun block =>
      if low / block = high / block then Option.none
      else if low % block ≠ 0 then some (low / block * block + block - 1)
      else if high % block ≠ block - 1 then some (high / block * block - 1)
      else Option.none

/-- The byte ranges that encode a range of code points; a range is cut at most eight times. -/
def byteRanges : (fuel low high : Nat) → List (List ByteRange)
  | 0, _, _ => []
  | fuel + 1, low, high =>
    match cutAfter? low high with
    | some last => byteRanges fuel low last ++ byteRanges fuel (last + 1) high
    | Option.none => [(encoded low).zip (encoded high)]

/-- The byte ranges that encode the characters of a set, in ascending order.  The code points between
D800 and DFFF have no encoding. -/
def byteSequences (s : CharSet) : List (List ByteRange) :=
  (s.diff (range 0xd800 0xdfff)).ranges.flatMap fun r => byteRanges 16 r.1 r.2

/-- The lists of a list in groups of neighbours with the same head, each group with its tails. -/
def byHead : List (List ByteRange) → List (ByteRange × List (List ByteRange))
  | (r :: rest) :: more =>
    match byHead more with
    | (head, tails) :: groups =>
      if head = r then (head, rest :: tails) :: groups else (r, [rest]) :: (head, tails) :: groups
    | [] => [(r, [rest])]
  | [] :: more => byHead more
  | [] => []

/-- The different sets of byte sequences that can follow after some bytes of a sequence, at most so
many bytes deep. -/
def followers : Nat → List (List (List ByteRange)) → List (List (List ByteRange))
  | 0, sets => sets
  | depth + 1, sets =>
    let next := (sets.flatMap fun s => (byHead s).map (·.2)).filter fun s => !s.all List.isEmpty
    (sets ++ followers depth next.eraseDups).eraseDups

/-- The number of different beginnings of the sequences of a sorted list; `before` is the sequence
before the first. -/
def countBeginnings (before : List ByteRange) : List (List ByteRange) → Nat
  | [] => 0
  | s :: rest =>
    let shared := ((before.zip s).takeWhile fun p => p.1 == p.2).length
    (s.length - shared) + countBeginnings s rest

end CharSet

namespace Pattern

/-- The way a machine reads. -/
inductive Direction where
  | forwards | backwards
deriving DecidableEq, Repr

/-- The bytes that a state takes. -/
def stateSize : Nat := 32

/-- The bytes that a state takes more for each byte range that leads out of it. -/
def transitionSize : Nat := 8

/-- The bytes that a state takes more for each state that may follow it without reading. -/
def branchSize : Nat := 4

/-- The size of a state from which two others follow without reading. -/
def forkSize : Nat := stateSize + 2 * branchSize

/-- The size of the part of a machine that reads a character of a set. -/
def setSize (direction : Direction) (s : CharSet) : Nat :=
  if isOne s then
    stateSize * s.ranges.foldl (fun n r => n + (CharSet.encoded r.1).length) 0
  else if s.isAscii then 2 * stateSize + transitionSize * s.ranges.length
  else
    let sequences := s.byteSequences
    match direction with
    | .forwards =>
      let states := CharSet.followers 4 [sequences]
      states.foldl (fun n f => n + stateSize + transitionSize * (CharSet.byHead f).length) stateSize
    | .backwards =>
      2 * stateSize + branchSize * sequences.length +
        stateSize * CharSet.countBeginnings [] sequences

/-- The pattern takes a character, whatever it matches. -/
def takesSomething : Pattern → Bool
  | empty | check _ => false
  | char s => s != .none
  | seq p q => p.takesSomething || q.takesSomething
  | alt p q => p.takesSomething && q.takesSomething
  | times p least _ => p.takesSomething && least != 0
  | group p => p.takesSomething

/-- The size of the part of a machine that reads a pattern; `inner` says that the pattern is one of
the alternatives of another, which counts the states that alternatives share. -/
def partSize (direction : Direction) : (inner : Bool) → Pattern → Nat
  | _, empty => stateSize
  | _, char s => setSize direction s
  | _, check _ => stateSize
  | _, seq p q => p.partSize direction false + q.partSize direction false
  | inner, alt p q =>
    let branches (p : Pattern) (size : Nat) : Nat := match p with
      | alt _ _ => size
      | _ => branchSize + size
    (if inner then 0 else 2 * stateSize) +
      branches p (p.partSize direction true) + branches q (q.partSize direction true)
  | _, times p least most =>
    let once := p.partSize direction false
    match least, most with
    | 0, some 1 => forkSize + once + stateSize
    | 0, none =>
      if p.takesSomething then forkSize + once else once + 2 * forkSize + stateSize
    | least, none => least * once + forkSize
    | least, some most =>
      if least = most then least * once
      else max stateSize (least * once) + stateSize + (most - least) * (forkSize + once)
  | _, group p =>
    p.partSize direction false + if direction = .forwards then 2 * stateSize else 0

/-- The size of the machine of a pattern: besides its part, a state to begin with and one to end with,
and two that mark the match if the machine reads forwards. -/
def size (direction : Direction) (p : Pattern) : Nat :=
  p.partSize direction false + if direction = .forwards then 4 * stateSize else 2 * stateSize

/-- The size up to which a machine is built. -/
def maxSize : Nat := 10 * 0x100000

/-- The machines of the pattern are not too large. -/
def fits (p : Pattern) : Bool := p.size .forwards ≤ maxSize && p.size .backwards ≤ maxSize

end Pattern

end RegisterMap
