import RegisterMap.Json.Value
import RegisterMap.Pattern.Class
import RegisterMap.Pattern.Size

/-!
# Reading patterns

The notation of patterns: signs and classes, groups with and without a name, alternatives,
repetitions, and flags that hold up to the end of the group.  What would need to remember text
(references to groups) or to look around is no pattern.

A repetition says whether it would rather take more or less; where a pattern ends matters here only
as being possible, so that wish is read and dropped.

A text whose notation nests too deep is no pattern, and neither is one that would take too large a
machine.  The depth counts groups, repetitions, classes, sequences of several parts and choices
between several alternatives around the innermost part.
-/

namespace RegisterMap

namespace Pattern

/-! ## Repetitions -/

/-- The number at the front of a text; there have to be digits. -/
def count (flags : Flags) (cs : List Char) : Option (Nat × List Char) :=
  let (digits, rest) := takeSigns flags Char.isDigit (cs.dropWhile Text.isBlank)
  if digits.isEmpty then none
  else some (Json.digitsValue digits, (takeSigns flags Text.isBlank rest).2)

/-- The largest number in a repetition. -/
def maxCount : Nat := 0xffffffff

/-- The bounds of a repetition, after the opening brace. -/
def bounds (flags : Flags) (cs : List Char) : Option ((Nat × Option Nat) × List Char) := do
  let (least, rest) ← count flags (skip flags cs)
  let (most, rest) ← match rest with
    | ',' :: rest =>
      match skip flags rest with
      | '\x7d' :: rest => pure (none, '\x7d' :: rest)
      | rest =>
        let (most, rest) ← count flags rest
        pure (some most, rest)
    | rest => pure (some least, rest)
  if maxCount < least ∨ most.any fun n => maxCount < n || n < least then none
  else
    match rest with
    | '\x7d' :: rest => some ((least, most), rest)
    | _ => none

/-- The rest after the mark of a repetition that takes as little as it can. -/
def dropLazy : List Char → List Char
  | '?' :: rest => rest
  | cs => cs

/-! ## Groups -/

/-- Sets or clears a flag by its letter. -/
def Flags.set (flags : Flags) (letter : Char) (on : Bool) : Option Flags :=
  match letter with
  | 'i' => some { flags with ignoreCase := on }
  | 'm' => some { flags with multiline := on }
  | 's' => some { flags with dotAll := on }
  | 'u' => some { flags with unicode := on }
  | 'x' => some { flags with verbose := on }
  | 'R' => some { flags with returns := on }
  | 'U' => some flags
  | _ => none

/-- The flags at the front of a text up to a colon or a closing parenthesis; `seen` are the letters
so far, with a hyphen among them after which flags are cleared. -/
def readFlags (flags : Flags) (seen : List Char) : List Char → Option (Flags × List Char)
  | [] => none
  | c :: rest =>
    if c = ':' ∨ c = ')' then
      if seen.head? = some '-' then none else some (flags, c :: rest)
    else if seen.contains c then none
    else if c = '-' then readFlags flags ('-' :: seen) rest
    else
      match flags.set c (!seen.contains '-') with
      | none => none
      | some flags => readFlags flags (c :: seen) rest

/-- What an opening parenthesis begins. -/
inductive GroupStart where
  /-- Flags for the rest of the group around. -/
  | flags (f : Flags)
  /-- A group that only holds parts together, with its flags. -/
  | plain (f : Flags)
  /-- A group that can be referred to, by its name if it has one. -/
  | counted (name : Option String)

/-- The name of a group up to the closing angle bracket. -/
def groupName (cs : List Char) : Option (String × List Char) :=
  let name := cs.takeWhile (· != '>')
  match name, cs.dropWhile (· != '>') with
  | first :: more, _ :: rest =>
    if (first == '_' || Text.isAlphabetic first) &&
        more.all (fun c => ['_', '.', '[', ']'].contains c || Text.isAlphanumeric c) then
      some (String.ofList name, rest)
    else none
  | _, _ => none

/-- What begins after an opening parenthesis. -/
def groupStart (flags : Flags) (cs : List Char) : Option (GroupStart × List Char) :=
  match skip flags cs with
  | '?' :: '=' :: _ | '?' :: '!' :: _ | '?' :: '<' :: '=' :: _ | '?' :: '<' :: '!' :: _ => none
  | '?' :: 'P' :: '<' :: rest | '?' :: '<' :: rest =>
    (groupName rest).map fun (name, rest) => (.counted (some name), rest)
  | '?' :: rest =>
    match readFlags flags [] rest with
    | some (f, ')' :: after) => if after.length + 1 = rest.length then none else some (.flags f, after)
    | some (f, _ :: after) => some (.plain f, after)
    | _ => none
  | cs => some (.counted none, cs)

/-! ## Whole patterns -/

/-- A part of a pattern, and how deep its notation nests. -/
structure Nested where
  pattern : Pattern
  depth : Nat

namespace Nested

/-- Parts in a list; several of them are one level more. -/
def listDepth (parts : List Nested) : Nat :=
  let deepest := parts.foldl (fun d p => max d p.depth) 0
  if 1 < parts.length then deepest + 1 else deepest

/-- The sequence of items, last one first; the place of flags among them is empty. -/
def sequence (items : List (Option Nested)) : Nested :=
  let parts := items.reverse.map fun item => item.getD ⟨.empty, 0⟩
  ⟨concat (parts.map (·.pattern)), listDepth parts⟩

/-- The choice between finished alternatives and a last one, all last one first. -/
def choice (alternatives : List Nested) (last : Nested) : Nested :=
  let parts := (last :: alternatives).reverse
  ⟨Pattern.choice (parts.map (·.pattern)), listDepth parts⟩

end Nested

/-- The deepest notation of a pattern. -/
def maxDepth : Nat := 250

/-- The pattern at the front of a text, up to the end or the closing parenthesis of the group.
`level` is the number of groups that are open, `names` are the names of the groups so far,
`alternatives` the finished alternatives and `items` the items of the one being read. -/
def body : (fuel : Nat) → (level : Nat) → Flags → (names : List String) →
    (alternatives : List Nested) → (items : List (Option Nested)) → List Char →
    Option (Nested × List String × List Char)
  | 0, _, _, _, _, _, _ => none
  | fuel + 1, level, flags, names, alternatives, items, cs =>
    let push (p : Pattern) (depth : Nat) (rest : List Char) :=
      body fuel level flags names alternatives (some ⟨p, depth⟩ :: items) rest
    let character (c : Char) (rest : List Char) := push (.char (flags.fold (.single c))) 0 rest
    let repetition (least : Nat) (most : Option Nat) (rest : List Char) := match items with
      | some p :: before =>
        body fuel level flags names alternatives
          (some ⟨p.pattern.repeated least most, p.depth + 1⟩ :: before) (dropLazy rest)
      | _ => none
    match skip flags cs with
    | [] => some (.choice alternatives (.sequence items), names, [])
    | ')' :: rest => some (.choice alternatives (.sequence items), names, ')' :: rest)
    | '|' :: rest => body fuel level flags names (.sequence items :: alternatives) [] rest
    | '(' :: rest =>
      let grouped (f : Flags) (name : Option String) (make : Pattern → Pattern) (rest : List Char) :=
        if maxDepth ≤ level || name.any names.contains then none
        else
          match body fuel (level + 1) f (name.toList ++ names) [] [] rest with
          | some (p, names, ')' :: rest) =>
            body fuel level flags names alternatives (some ⟨make p.pattern, p.depth + 1⟩ :: items) rest
          | _ => none
      match groupStart flags rest with
      | none => none
      | some (.flags f, rest) => body fuel level f names alternatives (none :: items) rest
      | some (.plain f, rest) => grouped f none id rest
      | some (.counted name, rest) => grouped flags name .group rest
    | '*' :: rest => repetition 0 none rest
    | '+' :: rest => repetition 1 none rest
    | '?' :: rest => repetition 0 (some 1) rest
    | '\x7b' :: rest =>
      match bounds flags rest with
      | none => none
      | some ((least, most), rest) => repetition least most (skip flags rest)
    | '[' :: rest =>
      match bracketed flags rest with
      | none => none
      | some (s, rest) => push (.char s.set) s.depth rest
    | '\\' :: rest =>
      match escape flags rest with
      | none => none
      | some (.char c, rest) => character c rest
      | some (.byte c, rest) => if flags.unicode || c.toNat < 0x80 then character c rest else none
      | some (.set s, rest) => push (.char s) 0 rest
      | some (.check k, rest) => push (.check k) 0 rest
    | '.' :: rest =>
      match flags.dot with
      | none => none
      | some s => push (.char s) 0 rest
    | '^' :: rest => push (.check (flags.anchor true)) 0 rest
    | '$' :: rest => push (.check (flags.anchor false)) 0 rest
    | c :: rest => character c rest

/-- The pattern that a text writes. -/
def parse? (text : String) : Option Pattern :=
  let cs := text.toList
  match body (cs.length + 1) 0 {} [] [] [] cs with
  | some (p, _, []) => if p.depth ≤ maxDepth && p.pattern.fits then some p.pattern else none
  | _ => none

end Pattern

end RegisterMap
