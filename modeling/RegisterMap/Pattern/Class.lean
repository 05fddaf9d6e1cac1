import RegisterMap.Pattern.Notation

/-!
# Classes in brackets

A class in brackets lists characters, ranges, escapes and classes; classes may be nested and be
combined by set operations, which reach from the last operation or the opening bracket to the next
one.  Case is ignored, if at all, in every operand and then in the whole class, and only then the
complement is taken.

With each class goes its depth: the number of brackets, operations and lists of several items around
its innermost part.
-/

namespace RegisterMap

namespace Pattern

/-- A set of characters as it is written, and how deep its notation nests. -/
structure NestedSet where
  set : CharSet
  depth : Nat

/-- The items of a class since its opening bracket or last operation. -/
structure ItemList where
  set : CharSet := .none
  count : Nat := 0
  depth : Nat := 0

namespace ItemList

def push (items : ItemList) (item : NestedSet) : ItemList :=
  ⟨items.set.union item.set, items.count + 1, max items.depth item.depth⟩

/-- The set that the items make; several items are one level more. -/
def whole (items : ItemList) : NestedSet :=
  ⟨items.set, if 1 < items.count then items.depth + 1 else items.depth⟩

end ItemList

/-- The operations between classes. -/
inductive SetOperation where
  | inter
  | diff
  | symmDiff

def SetOperation.apply : SetOperation → CharSet → CharSet → CharSet
  | inter => .inter
  | diff => .diff
  | symmDiff => .symmDiff

/-! ## Items -/

/-- One item of a class. -/
inductive ClassItem where
  | char (c : Char)
  | set (s : CharSet)

/-- An item of a class at the front of a text.  Without Unicode it has to be an ASCII character. -/
def classItem (flags : Flags) (cs : List Char) : Option (ClassItem × List Char) :=
  let char (c : Char) (rest : List Char) : Option (ClassItem × List Char) :=
    if flags.unicode || c.toNat < 0x80 then some (.char c, rest) else none
  match cs with
  | [] => none
  | '\\' :: rest =>
    match escape flags rest with
    | some (.char c, rest) | some (.byte c, rest) => char c rest
    | some (.set s, rest) => some (.set s, rest)
    | _ => none
  | c :: rest => char c rest

/-- The sign after the one at the front, as a look ahead sees it: past blanks and the mark of a
comment, but into the comment. -/
def lookAhead (flags : Flags) (rest : List Char) : Option Char :=
  if !flags.verbose then rest.head?
  else
    let past := match rest.dropWhile Text.isBlank with
      | '#' :: more => more.dropWhile Text.isBlank
      | cs => cs
    past.head? <|> rest.head?

/-- An item or a range of a class. -/
def classRange (flags : Flags) (cs : List Char) : Option (CharSet × List Char) := do
  let (first, rest) ← classItem flags cs
  let alone : CharSet := match first with
    | .char c => .single c
    | .set s => s
  match skip flags rest with
  | [] => none
  | '-' :: after =>
    if lookAhead flags after = some ']' ∨ lookAhead flags after = some '-' then
      some (alone, '-' :: after)
    else
      match first, ← classItem flags (skip flags after) with
      | .char low, (.char high, rest) =>
        if low ≤ high then some (.range low.toNat high.toNat, rest) else none
      | _, _ => none
  | rest => some (alone, rest)

/-- A class of ASCII characters by its name, after the opening bracket: whether the complement is
meant, and the class. -/
def asciiClass (cs : List Char) : Option (Bool × CharSet × List Char) :=
  match cs with
  | ':' :: rest =>
    let (negated, rest) := match rest with
      | '^' :: rest => (true, rest)
      | rest => (false, rest)
    match rest.dropWhile (· != ':') with
    | ':' :: ']' :: after =>
      (ClassName.ascii? (String.ofList (rest.takeWhile (· != ':')))).map (negated, ·, after)
    | _ => none
  | _ => none

/-! ## Whole classes -/

/-- The hyphens at the front of a class, which stand for themselves. -/
def leadingHyphens (flags : Flags) (items : ItemList) : Nat → List Char → ItemList × List Char
  | 0, cs => (items, cs)
  | fuel + 1, cs =>
    match cs with
    | '-' :: rest => leadingHyphens flags (items.push ⟨.single '-', 0⟩) fuel (skip flags rest)
    | _ => (items, cs)

/-- The front of a class after its opening bracket: whether it is negated, the items that stand for
themselves only there, and the rest. -/
def classFront (flags : Flags) (cs : List Char) : Bool × ItemList × List Char :=
  let cs := skip flags cs
  let (negated, cs) := match cs with
    | '^' :: rest => (true, skip flags rest)
    | cs => (false, cs)
  let (items, cs) := leadingHyphens flags {} cs.length cs
  match items.count, cs with
  | 0, ']' :: rest => (negated, items.push ⟨.single ']', 0⟩, skip flags rest)
  | _, cs => (negated, items, cs)

/-- The items of a class up to its closing bracket.  `left` is what stands before the last operation,
`items` are the items since then. -/
def classItems (flags : Flags) : Nat → Option (NestedSet × SetOperation) → ItemList → List Char →
    Option (NestedSet × List Char)
  | 0, _, _, _ => none
  | fuel + 1, left, items, cs =>
    let applied : NestedSet := match left with
      | none => items.whole
      | some (l, op) =>
        let r := items.whole
        ⟨op.apply (flags.fold l.set) (flags.fold r.set), max l.depth r.depth + 1⟩
    match skip flags cs with
    | [] => none
    | ']' :: rest => some (applied, rest)
    | '&' :: '&' :: rest => classItems flags fuel (some (applied, .inter)) {} rest
    | '-' :: '-' :: rest => classItems flags fuel (some (applied, .diff)) {} rest
    | '~' :: '~' :: rest => classItems flags fuel (some (applied, .symmDiff)) {} rest
    | '[' :: rest =>
      match asciiClass rest with
      | some (negated, s, rest) =>
        match flags.class? negated s with
        | none => none
        | some s => classItems flags fuel left (items.push ⟨s, 0⟩) rest
      | none =>
        let (negated, front, rest) := classFront flags rest
        match classItems flags fuel none front rest with
        | none => none
        | some (inner, rest) =>
          match flags.class? negated inner.set with
          | none => none
          | some s => classItems flags fuel left (items.push ⟨s, inner.depth + 1⟩) rest
    | cs =>
      match classRange flags cs with
      | none => none
      | some (s, rest) => classItems flags fuel left (items.push ⟨s, 0⟩) rest

/-- A class, after its opening bracket. -/
def bracketed (flags : Flags) (cs : List Char) : Option (NestedSet × List Char) :=
  let (negated, front, rest) := classFront flags cs
  match classItems flags (cs.length + 1) none front rest with
  | none => none
  | some (inner, rest) =>
    (flags.class? negated inner.set).map fun s => (⟨s, inner.depth + 1⟩, rest)

end Pattern

end RegisterMap
