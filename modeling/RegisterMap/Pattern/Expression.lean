import RegisterMap.Text.CharSet

/-!
# Patterns

Regular expressions over characters, with the conditions on a place that take no character.  A
pattern is built from parts; the operations that build one leave out what cannot matter, so that
patterns that differ in such parts alone are the same.
-/

namespace RegisterMap

/-- A condition on a place. -/
inductive Check where
  | textStart
  | textEnd
  /-- A line begins here; lines may also end in a carriage return. -/
  | lineStart (returns : Bool)
  /-- A line ends here; lines may also end in a carriage return. -/
  | lineEnd (returns : Bool)
  /-- A word begins or ends here, by the word characters of Unicode or of ASCII. -/
  | boundary (unicode : Bool)
  | noBoundary (unicode : Bool)
  | wordStart (unicode : Bool)
  | wordEnd (unicode : Bool)
  | noWordBefore (unicode : Bool)
  | noWordAfter (unicode : Bool)
deriving DecidableEq, Repr

/-- A regular expression. -/
inductive Pattern where
  | empty
  | char (s : CharSet)
  | check (k : Check)
  | seq (p q : Pattern)
  | alt (p q : Pattern)
  /-- Several times in a row, at least so often, and at most so often if there is a bound. -/
  | times (p : Pattern) (least : Nat) (most : Option Nat)
  /-- The same, as a group that can be referred to. -/
  | group (p : Pattern)
deriving Repr, Inhabited

namespace Pattern

/-! ## Building patterns

Parts that cannot matter are left out as a pattern is built: empty parts of a sequence, repetitions
that happen exactly once or never, and repetitions of what takes no character.  Alternatives that are
all single characters, or all classes, are one class. -/

/-- The pattern takes no character, whatever it matches. -/
def takesNothing : Pattern → Bool
  | empty | check _ => true
  | char _ => false
  | seq p q => p.takesNothing && q.takesNothing
  | alt p q => p.takesNothing && q.takesNothing
  | times p _ most => p.takesNothing && most.isSome
  | group p => p.takesNothing

def append : Pattern → Pattern → Pattern
  | empty, q => q
  | p, empty => p
  | p, q => seq p q

/-- The patterns of a list one after the other. -/
def concat (ps : List Pattern) : Pattern := ps.foldr append empty

def alternatives : Pattern → List Pattern
  | alt p q => p.alternatives ++ q.alternatives
  | p => [p]

/-- The set of a pattern that takes one character. -/
def set? : Pattern → Option CharSet
  | char s => some s
  | _ => none

/-- The set has exactly one character. -/
def isOne (s : CharSet) : Bool :=
  match s.ranges with
  | [(low, high)] => low == high
  | _ => false

/-- One of the patterns of a list. -/
def choice (ps : List Pattern) : Pattern :=
  let ps := ps.flatMap alternatives
  let nested := match ps.reverse with
    | [] => char .none
    | last :: before => before.foldl (fun q p => alt p q) last
  match ps.mapM set? with
  | some sets =>
    if sets.all isOne || sets.all fun s => !isOne s then char (.unions sets) else nested
  | none => nested

def repeated (p : Pattern) (least : Nat) (most : Option Nat) : Pattern :=
  let (least, most) :=
    if p.takesNothing then (min least 1, some (min (most.getD 1) 1)) else (least, most)
  match least, most with
  | 0, some 0 => empty
  | 1, some 1 => p
  | least, most => times p least most

end Pattern

end RegisterMap
