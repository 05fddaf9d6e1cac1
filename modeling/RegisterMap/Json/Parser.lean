import RegisterMap.Json.Value
import RegisterMap.Text.Runs

/-!
# Reading JSON

A strict reader: one value, blanks around its tokens, no comments, no trailing commas, no leading
zeros or plus signs, and no control characters in strings.  The reader works on the characters that
are left; its fuel bounds the number of nested and successive values, each of which takes at least
one character, so a fuel of twice the length of the text is never used up.
-/

namespace RegisterMap

namespace Json

/-! ## Tokens -/

/-- Characters that may stand between tokens. -/
def isSpace (c : Char) : Bool := c == ' ' || c == '\n' || c == '\t' || c == '\r'

/-- The rest of the text from the next token on. -/
def skipSpace (cs : List Char) : List Char := cs.dropWhile isSpace

def expect : (expected : List Char) → List Char → Option (List Char)
  | [], cs => some cs
  | e :: es, c :: cs => if e = c then expect es cs else none
  | _ :: _, [] => none

/-- The digits at the front of a text, and the rest. -/
def takeDigits (cs : List Char) : List Char × List Char := cs.span Char.isDigit

/-- The digits at the front of a text, of which there has to be one. -/
def someDigits (cs : List Char) : Option (List Char × List Char) :=
  match takeDigits cs with
  | ([], _) => none
  | found => some found

/-- The integer part of a number: a zero, or digits that do not begin with one. -/
def integerPart (cs : List Char) : Option (List Char × List Char) :=
  match cs with
  | '0' :: rest => if (rest.head?.map Char.isDigit).getD false then none else some (['0'], rest)
  | _ => someDigits cs

/-- The fraction of a number, which may be missing. -/
def fractionPart (cs : List Char) : Option (List Char × List Char) :=
  match cs with
  | '.' :: rest => (someDigits rest).map fun (digits, rest) => ('.' :: digits, rest)
  | _ => some ([], cs)

/-- The exponent of a number, which may be missing. -/
def exponentPart (cs : List Char) : Option (List Char × List Char) :=
  match cs with
  | e :: rest =>
    if e = 'e' ∨ e = 'E' then
      match rest with
      | s :: rest' =>
        if s = '+' ∨ s = '-' then (someDigits rest').map fun (digits, r) => (e :: s :: digits, r)
        else (someDigits rest).map fun (digits, r) => (e :: digits, r)
      | [] => none
    else some ([], cs)
  | [] => some ([], [])

def unsignedNumber (cs : List Char) : Option (List Char × List Char) := do
  let (whole, cs) ← integerPart cs
  let (fraction, cs) ← fractionPart cs
  let (exponent, cs) ← exponentPart cs
  pure (whole ++ fraction ++ exponent, cs)

def numberToken (cs : List Char) : Option (List Char × List Char) :=
  match cs with
  | '-' :: rest => (unsignedNumber rest).map fun (literal, rest) => ('-' :: literal, rest)
  | _ => unsignedNumber cs

/-! ## Strings -/

/-- Four hexadecimal digits as a number. -/
def hexUnit? (a b c d : Char) : Option Nat := do
  let a ← Text.hexDigitValue? a
  let b ← Text.hexDigitValue? b
  let c ← Text.hexDigitValue? c
  let d ← Text.hexDigitValue? d
  pure (((a * 16 + b) * 16 + c) * 16 + d)

/-- The character of an escape of one letter. -/
def shortEscape? : Char → Option Char
  | '"' => some '"'
  | '\\' => some '\\'
  | '/' => some '/'
  | 'b' => some (Char.ofNat 0x08)
  | 'f' => some (Char.ofNat 0x0c)
  | 'n' => some '\n'
  | 'r' => some '\r'
  | 't' => some '\t'
  | _ => none

/-- One unit of a string: a character, or a 16-bit code written by its digits. -/
inductive StringUnit where
  | char (c : Char)
  | code (unit : Nat)
deriving DecidableEq, Repr

/-- The text that units denote.  Codes of a surrogate pair are joined; half a pair denotes no
text. -/
def textOfUnits : List StringUnit → Option (List Char)
  | [] => some []
  | .char c :: rest => (textOfUnits rest).map (c :: ·)
  | .code u :: rest =>
    if 0xd800 ≤ u ∧ u < 0xdc00 then
      match rest with
      | .code v :: rest' =>
        if 0xdc00 ≤ v ∧ v < 0xe000 then
          (textOfUnits rest').map (Char.ofNat (0x10000 + (u - 0xd800) * 0x400 + (v - 0xdc00)) :: ·)
        else none
      | _ => none
    else if 0xdc00 ≤ u ∧ u < 0xe000 then none
    else (textOfUnits rest).map (Char.ofNat u :: ·)

/-- The units of a string up to its closing quote, last one first, and the rest of the text. -/
def stringUnits (acc : List StringUnit) : List Char → Option (List StringUnit × List Char)
  | '"' :: rest => some (acc, rest)
  | '\\' :: 'u' :: a :: b :: c :: d :: rest =>
    match hexUnit? a b c d with
    | some u => stringUnits (.code u :: acc) rest
    | none => none
  | '\\' :: e :: rest =>
    match shortEscape? e with
    | some c => stringUnits (.char c :: acc) rest
    | none => none
  | c :: rest => if c.toNat < 0x20 then none else stringUnits (.char c :: acc) rest
  | [] => none

/-- A string after its opening quote. -/
def stringToken (cs : List Char) : Option (JsonText × List Char) :=
  (stringUnits [] cs).map fun (units, rest) => ((textOfUnits units.reverse).map String.ofList, rest)

/-! ## Values -/

mutual

/-- A value at the front of a text, without blanks before it. -/
def parseValue (fuel : Nat) (cs : List Char) : Option (Json × List Char) :=
  match fuel with
  | 0 => none
  | fuel + 1 =>
    match cs with
    | '"' :: rest => (stringToken rest).map fun (t, rest) => (.string t, rest)
    | '[' :: rest =>
      match skipSpace rest with
      | ']' :: rest => some (.array [], rest)
      | rest => parseItems fuel [] rest
    | '\x7b' :: rest =>
      match skipSpace rest with
      | '\x7d' :: rest => some (.object [], rest)
      | rest => parseMembers fuel [] rest
    | 'n' :: rest => (expect ['u', 'l', 'l'] rest).map fun rest => (.null, rest)
    | 't' :: rest => (expect ['r', 'u', 'e'] rest).map fun rest => (.bool true, rest)
    | 'f' :: rest => (expect ['a', 'l', 's', 'e'] rest).map fun rest => (.bool false, rest)
    | _ => (numberToken cs).map fun (literal, rest) => (.number literal, rest)

/-- The items of an array from an item on; `acc` lists the items before it, last one first. -/
def parseItems (fuel : Nat) (acc : List Json) (cs : List Char) : Option (Json × List Char) :=
  match fuel with
  | 0 => none
  | fuel + 1 =>
    match parseValue fuel cs with
    | none => none
    | some (item, rest) =>
      match skipSpace rest with
      | ',' :: rest => parseItems fuel (item :: acc) (skipSpace rest)
      | ']' :: rest => some (.array (item :: acc).reverse, rest)
      | _ => none

/-- The members of an object from a member on; `acc` lists the members before it, last one
first. -/
def parseMembers (fuel : Nat) (acc : List (JsonText × Json)) (cs : List Char) :
    Option (Json × List Char) :=
  match fuel with
  | 0 => none
  | fuel + 1 =>
    match cs with
    | '"' :: rest =>
      match stringToken rest with
      | none => none
      | some (name, rest) =>
        match skipSpace rest with
        | ':' :: rest =>
          match parseValue fuel (skipSpace rest) with
          | none => none
          | some (value, rest) =>
            match skipSpace rest with
            | ',' :: rest => parseMembers fuel ((name, value) :: acc) (skipSpace rest)
            | '\x7d' :: rest => some (.object ((name, value) :: acc).reverse, rest)
            | _ => none
        | _ => none
    | _ => none

end

/-- The value that a text writes. -/
def parse (text : String) : Option Json :=
  let cs := skipSpace text.toList
  match parseValue (2 * cs.length + 2) cs with
  | some (value, rest) => if (skipSpace rest).isEmpty then some value else none
  | none => none

end Json

end RegisterMap
