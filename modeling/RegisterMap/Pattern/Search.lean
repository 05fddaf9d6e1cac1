import RegisterMap.Pattern.ClassName
import RegisterMap.Pattern.Expression

/-!
# Searching for patterns

What a pattern does in a text is the list of places where it can end, given the places where it may
begin; a pattern occurs in a text when it can end somewhere, wherever it began.  Lists of places are
kept in the order of the text and without repetitions, so that two of them can be merged.

A place can only be reached from one before it or from itself.  So a pattern that is repeated more
often than there are places left gives what it gives when it is repeated as often as that, and no
bound of a repetition makes the search long.
-/

namespace RegisterMap

/-- A place in a text: the character before it and the text after it. -/
structure Cursor where
  before : Option Char
  rest : List Char
  /-- The number of characters after the place. -/
  left : Nat
  left_eq : left = rest.length
deriving DecidableEq, Repr

namespace Cursor

/-- The places in a text from a place on. -/
def onward (before : Option Char) : (rest : List Char) → (left : Nat) → left = rest.length →
    List Cursor
  | [], left, h => [⟨before, [], left, h⟩]
  | c :: rest, left, h =>
    ⟨before, c :: rest, left, h⟩ :: onward (some c) rest (left - 1) (by simp [h])

/-- The place after the next character, which has to be in a set. -/
def advance (s : CharSet) (cursor : Cursor) : Option Cursor :=
  match cursor with
  | ⟨_, [], _, _⟩ => none
  | ⟨_, c :: rest, left, h⟩ =>
    if s.contains c then some ⟨some c, rest, left - 1, by simp [h]⟩ else none

def merge : List Cursor → List Cursor → List Cursor
  | [], bs => bs
  | as, [] => as
  | a :: as, b :: bs =>
    if b.left < a.left then a :: merge as (b :: bs)
    else if a.left < b.left then b :: merge (a :: as) bs
    else a :: merge as bs
termination_by as bs => as.length + bs.length

/-- The places of a list that are not in another one. -/
def without : (as seen : List Cursor) → List Cursor
  | [], _ => []
  | as, [] => as
  | a :: as, b :: bs =>
    if b.left < a.left then a :: without as (b :: bs)
    else if a.left < b.left then without (a :: as) bs
    else without as bs
termination_by as seen => as.length + seen.length

end Cursor

namespace Check

/-- The character is there and belongs to a word. -/
def isWord (unicode : Bool) (c : Option Char) : Bool :=
  c.any (if unicode then ClassName.word else ClassName.asciiWord).contains

/-- The condition holds at a place. -/
def holds (k : Check) (p : Cursor) : Bool :=
  let next := p.rest.head?
  match k with
  | textStart => p.before.isNone
  | textEnd => p.rest.isEmpty
  | lineStart false => p.before.all (· == '\n')
  | lineStart true =>
    p.before.all fun c => c == '\n' || (c == '\r' && next != some '\n')
  | lineEnd false => next.all (· == '\n')
  | lineEnd true =>
    next.all fun c => c == '\r' || (c == '\n' && p.before != some '\r')
  | boundary u => isWord u p.before != isWord u next
  | noBoundary u => isWord u p.before == isWord u next
  | wordStart u => !isWord u p.before && isWord u next
  | wordEnd u => isWord u p.before && !isWord u next
  | noWordBefore u => !isWord u p.before
  | noWordAfter u => !isWord u next

end Check

namespace Pattern

/-- What a step on places reaches in any number of steps, at most so many. -/
def reach (step : List Cursor → List Cursor) : Nat → (seen latest : List Cursor) → List Cursor
  | 0, seen, _ => seen
  | fuel + 1, seen, latest =>
    match Cursor.without (step latest) seen with
    | [] => seen
    | news => reach step fuel (Cursor.merge seen news) news

/-- What a step on places reaches in exactly so many steps. -/
def after (step : List Cursor → List Cursor) : Nat → List Cursor → List Cursor
  | 0, cursors => cursors
  | n + 1, cursors => if cursors.isEmpty then [] else after step n (step cursors)

/-- The places where a pattern can end that begins at one of some places. -/
def ends : Pattern → List Cursor → List Cursor
  | empty, cursors => cursors
  | char s, cursors => cursors.filterMap (Cursor.advance s)
  | check k, cursors => cursors.filter k.holds
  | seq p q, cursors => q.ends (p.ends cursors)
  | alt p q, cursors => Cursor.merge (p.ends cursors) (q.ends cursors)
  | times p least most, cursors =>
    let places := cursors.foldl (fun n c => max n (c.left + 1)) 0
    let begun := after p.ends (min least places) cursors
    let steps := match most with
      | none => places
      | some n => min places (n - least)
    reach p.ends steps begun begun
  | group p, cursors => p.ends cursors

/-- The pattern occurs somewhere in a text. -/
def occursIn (p : Pattern) (text : List Char) : Bool :=
  !(p.ends (Cursor.onward none text text.length rfl)).isEmpty

/-! ## Faster patterns -/

/-- A repetition of a pattern.  If the pattern is a repetition itself that happens at most once where
it happens least, every number between the products of the bounds is possible, and the two
repetitions are one. -/
def repeating (p : Pattern) (least : Nat) (most : Option Nat) : Pattern :=
  match p with
  | times q inner bound =>
    if inner ≤ 1 then
      times q (inner * least) (bound.bind fun b => most.map fun m => b * m)
    else times p least most
  | p => times p least most

/-- The pattern without its groups, and with repetitions of repetitions as one where that is
possible. -/
def simplified : Pattern → Pattern
  | seq p q => seq p.simplified q.simplified
  | alt p q => alt p.simplified q.simplified
  | times p least most => p.simplified.repeating least most
  | group p => p.simplified
  | p => p

end Pattern

end RegisterMap
