import RegisterMap.Pattern.Notation
import RegisterMap.Toml.Scalar
import RegisterMap.Toml.Value

/-!
# Reading TOML

A reader for whole documents: comments, keys, headers, texts in all four notations, arrays over
several lines and tables in braces.  The reader works on the characters that are left.  Brackets and
braces may not be too deep in each other, nor may a key have too many parts.
-/

namespace RegisterMap

namespace Toml

/-! ## Blanks and comments -/

def isLineBlank (c : Char) : Bool := c == ' ' || c == '\t'

/-- The rest of the text after blanks. -/
def skipLineBlanks (cs : List Char) : List Char := cs.dropWhile isLineBlank

/-- A character that may stand in comments and texts: no control character but the tab. -/
def isPlain (c : Char) : Bool := c == '\t' || (0x20 ≤ c.toNat && c.toNat != 0x7f)

/-- The rest of the text after the end of a line, if it is here. -/
def lineEnd? : List Char → Option (List Char)
  | '\n' :: rest => some rest
  | '\r' :: '\n' :: rest => some rest
  | _ => none

/-- The rest of the text after a comment, if one is here. -/
def skipComment (cs : List Char) : List Char :=
  match cs with
  | '#' :: rest => rest.dropWhile isPlain
  | _ => cs

/-- The rest of the text after blanks, a comment, and the end of the line or of the text. -/
def endOfLine (cs : List Char) : Option (List Char) :=
  match skipComment (skipLineBlanks cs) with
  | [] => some []
  | rest => lineEnd? rest

/-- The rest of the text after blanks, comments and ends of lines. -/
def skipLines : Nat → List Char → List Char
  | 0, cs => cs
  | fuel + 1, cs =>
    let cs := skipComment (skipLineBlanks cs)
    match lineEnd? cs with
    | some rest => skipLines fuel rest
    | none => cs

/-! ## Texts -/

/-- An escape after its backslash. -/
def escape (cs : List Char) : Option (Char × List Char) :=
  let coded (digits : Nat) (rest : List Char) : Option (Char × List Char) :=
    let written := rest.take digits
    if written.length < digits then none
    else (Pattern.charOfDigits? written).map fun c => (c, rest.drop digits)
  match cs with
  | 'b' :: rest => some (Char.ofNat 0x08, rest)
  | 't' :: rest => some ('\t', rest)
  | 'n' :: rest => some ('\n', rest)
  | 'f' :: rest => some (Char.ofNat 0x0c, rest)
  | 'r' :: rest => some ('\r', rest)
  | '"' :: rest => some ('"', rest)
  | '\\' :: rest => some ('\\', rest)
  | 'u' :: rest => coded 4 rest
  | 'U' :: rest => coded 8 rest
  | _ => none

/-- A text on one line up to the closing quote; `acc` are its characters so far, last one first. -/
def basicText (quote : Char) (escapes : Bool) : Nat → (acc : List Char) → List Char →
    Option (String × List Char)
  | 0, _, _ => none
  | fuel + 1, acc, cs =>
    match cs with
    | [] => none
    | c :: rest =>
      if c = quote then some (String.ofList acc.reverse, rest)
      else if c = '\\' ∧ escapes then
        match escape rest with
        | some (e, rest) => basicText quote escapes fuel (e :: acc) rest
        | none => none
      else if isPlain c then basicText quote escapes fuel (c :: acc) rest
      else none

/-- The rest of the text after a backslash that joins lines, if it does: blanks, the end of the line,
and all blanks and ends of lines after it. -/
def joinedLine? (cs : List Char) : Option (List Char) :=
  (lineEnd? (skipLineBlanks cs)).map fun rest =>
    let rec skipAll : Nat → List Char → List Char
      | 0, cs => cs
      | fuel + 1, cs =>
        match lineEnd? (skipLineBlanks cs) with
        | some rest => skipAll fuel rest
        | none => skipLineBlanks cs
    skipAll rest.length rest

/-- A text over several lines up to its three closing quotes, before which there may be two more;
`acc` are its characters so far, last one first. -/
def longText (quote : Char) (escapes : Bool) : Nat → (acc : List Char) → List Char →
    Option (String × List Char)
  | 0, _, _ => none
  | fuel + 1, acc, cs =>
    match cs with
    | [] => none
    | c :: rest =>
      if c = quote then
        let quotes := (cs.takeWhile (· == quote)).length
        if quotes < 3 then longText quote escapes fuel (c :: acc) rest
        else
          let inside := min (quotes - 3) 2
          some (String.ofList (acc.reverse ++ List.replicate inside quote), cs.drop (inside + 3))
      else if c = '\\' ∧ escapes then
        match joinedLine? rest with
        | some rest => longText quote escapes fuel acc rest
        | none =>
          match escape rest with
          | some (e, rest) => longText quote escapes fuel (e :: acc) rest
          | none => none
      else
        match lineEnd? cs with
        | some rest => longText quote escapes fuel ('\n' :: acc) rest
        | none => if isPlain c then longText quote escapes fuel (c :: acc) rest else none

/-- A text in any notation, from its first quote on. -/
def text? (cs : List Char) : Option (String × List Char) :=
  let long (quote : Char) (escapes : Bool) (rest : List Char) : Option (String × List Char) :=
    longText quote escapes (rest.length + 1) [] ((lineEnd? rest).getD rest)
  match cs with
  | '"' :: '"' :: '"' :: rest => long '"' true rest
  | '\'' :: '\'' :: '\'' :: rest => long '\'' false rest
  | '"' :: rest => basicText '"' true (rest.length + 1) [] rest
  | '\'' :: rest => basicText '\'' false (rest.length + 1) [] rest
  | _ => none

/-! ## Keys -/

/-- A character of a key without quotes. -/
def isKeyChar (c : Char) : Bool := c.isAlphanum || c == '_' || c == '-'

def keyPart (cs : List Char) : Option (String × List Char) :=
  match cs with
  | '"' :: rest => basicText '"' true (rest.length + 1) [] rest
  | '\'' :: rest => basicText '\'' false (rest.length + 1) [] rest
  | _ =>
    match cs.takeWhile isKeyChar with
    | [] => none
    | part => some (String.ofList part, cs.dropWhile isKeyChar)

/-- The number of brackets, or of parts of a key, that is too large. -/
def tooDeep : Nat := 80

/-- The parts of a key, and the rest of the text after blanks. -/
def keyParts : Nat → List Char → Option (List String × List Char)
  | 0, _ => none
  | fuel + 1, cs =>
    match keyPart (skipLineBlanks cs) with
    | none => none
    | some (part, rest) =>
      match skipLineBlanks rest with
      | '.' :: rest => (keyParts fuel rest).map fun (parts, rest) => (part :: parts, rest)
      | rest => some ([part], rest)

/-- A key with its parts, and the rest of the text after blanks. -/
def key (cs : List Char) : Option (List String × List Char) :=
  (keyParts (cs.length + 1) cs).filter fun r => r.1.length < tooDeep

/-! ## Values -/

mutual

/-- A value at the front of a text, without blanks before it, inside so many brackets and braces. -/
def value (depth : Nat) : Nat → List Char → Option (Toml × List Char)
  | 0, _ => none
  | fuel + 1, cs =>
    match cs with
    | '"' :: _ | '\'' :: _ => (text? cs).map fun (s, rest) => (.text s, rest)
    | '[' :: rest =>
      if depth + 1 < tooDeep then items (depth + 1) fuel [] (skipLines rest.length rest) else none
    | '\x7b' :: rest =>
      if depth + 1 < tooDeep then
        match skipLineBlanks rest with
        | '\x7d' :: rest => some (.table .inline [], rest)
        | rest => inlineMembers (depth + 1) fuel [] rest
      else none
    | 't' :: 'r' :: 'u' :: 'e' :: rest => some (.flag true, rest)
    | 'f' :: 'a' :: 'l' :: 's' :: 'e' :: rest => some (.flag false, rest)
    | _ => (scalar? cs).map fun rest => (.scalar, rest)

/-- The items of an array up to its bracket; `acc` are the items so far, last one first. -/
def items (depth : Nat) : Nat → (acc : List Toml) → List Char → Option (Toml × List Char)
  | 0, _, _ => none
  | fuel + 1, acc, cs =>
    match cs with
    | ']' :: rest => some (.array acc.reverse, rest)
    | _ =>
      match value depth fuel cs with
      | none => none
      | some (item, rest) =>
        match skipLines rest.length rest with
        | ',' :: rest => items depth fuel (item :: acc) (skipLines rest.length rest)
        | ']' :: rest => some (.array (item :: acc).reverse, rest)
        | _ => none

/-- The members of a table in braces from a member on; `members` are those so far. -/
def inlineMembers (depth : Nat) : Nat → (members : Members) → List Char → Option (Toml × List Char)
  | 0, _, _ => none
  | fuel + 1, members, cs =>
    match key cs with
    | some (parts, '=' :: rest) =>
      match value depth fuel (skipLineBlanks rest) with
      | none => none
      | some (v, rest) =>
        match addInline members parts.dropLast (parts.getLastD "") v with
        | none => none
        | some members =>
          match skipLineBlanks rest with
          | ',' :: rest => inlineMembers depth fuel members rest
          | '\x7d' :: rest => some (.table .inline members, rest)
          | _ => none
    | _ => none

end

/-! ## Documents -/

/-- A header after its first bracket: whether it begins an element of an array of tables, its key,
and the rest of the text after its line. -/
def header (cs : List Char) : Option (Bool × List String × List Char) :=
  let (element, cs) := match cs with
    | '[' :: rest => (true, rest)
    | cs => (false, cs)
  match key cs with
  | some (parts, ']' :: rest) =>
    if element then
      match rest with
      | ']' :: rest => (endOfLine rest).map fun rest => (true, parts, rest)
      | _ => none
    else (endOfLine rest).map fun rest => (false, parts, rest)
  | _ => none

/-- The lines of a document.  `path` is the key of the header in force. -/
def lines : Nat → (root : Members) → (path : List String) → List Char → Option Members
  | 0, _, _, _ => none
  | fuel + 1, root, path, cs =>
    match skipLines cs.length cs with
    | [] => some root
    | '[' :: rest =>
      match header rest with
      | none => none
      | some (element, parts, rest) =>
        let last := parts.getLastD ""
        match changeAt (if element then beginElement last else beginTable last) root parts.dropLast with
        | none => none
        | some root => lines fuel root parts rest
    | cs =>
      match key cs with
      | some (parts, '=' :: rest) =>
        match value 0 (2 * rest.length + 2) (skipLineBlanks rest) with
        | none => none
        | some (v, rest) =>
          match changeAt (addDotted · parts.dropLast (parts.getLastD "") v) root path, endOfLine rest with
          | some root, some rest => lines fuel root path rest
          | _, _ => none
      | _ => none

/-- The members of the document that a text writes; a mark of the byte order may come first. -/
def parse? (text : String) : Option Members :=
  let cs := match text.toList with
    | c :: rest => if c.toNat = 0xfeff then rest else c :: rest
    | [] => []
  lines (cs.length + 1) [] [] cs

end Toml

end RegisterMap
