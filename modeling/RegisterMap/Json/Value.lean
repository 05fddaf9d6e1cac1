import RegisterMap.Text.Hex

/-!
# JSON values

JSON texts as trees that keep what the readers of a register tree care about: numbers stay as they
were written, so that an integer can be told from a number with a fraction or an exponent; the
members of an object stay in order, repeated names included; and a string whose escapes spell half
of a surrogate pair, which is well formed but denotes no text, is kept as such.
-/

namespace RegisterMap

/-- The text of a JSON string; nothing if its escapes denote no text. -/
abbrev JsonText := Option String

/-- A JSON value. -/
inductive Json where
  | null
  | bool (value : Bool)
  | number (literal : List Char)
  | string (text : JsonText)
  | array (items : List Json)
  /-- An object with its members in order. -/
  | object (members : List (JsonText × Json))
deriving Repr, Inhabited

namespace Json

/-! ## Access -/

/-- A string that denotes this text. -/
def ofString (s : String) : Json := .string (some s)

/-- The number with these decimal digits. -/
def ofNat (n : Nat) : Json := .number (toString n).toList

/-- The number with these decimal digits and sign. -/
def ofInt (n : Int) : Json := .number (toString n).toList

/-- An object whose member names denote texts. -/
def ofMembers (members : List (String × Json)) : Json :=
  .object (members.map fun m => (some m.1, m.2))

def digitsValue (digits : List Char) : Nat :=
  digits.foldl (fun acc c => 10 * acc + (c.toNat - '0'.toNat)) 0

/-- The integer that a number literal writes.  A literal with a fraction or an exponent writes no
integer, and neither does a negative zero. -/
def literalInteger? (literal : List Char) : Option Int :=
  match literal with
  | '-' :: digits =>
    if digits.all Char.isDigit && digitsValue digits != 0 then some (-(digitsValue digits : Int))
    else none
  | digits => if digits.all Char.isDigit then some (digitsValue digits) else none

/-- The integer that a value is. -/
def integer? : Json → Option Int
  | number literal => literalInteger? literal
  | _ => none

/-- The text that a value is. -/
def text? : Json → Option String
  | string t => t
  | _ => none

/-- The truth value that a value is. -/
def bool? : Json → Option Bool
  | bool b => some b
  | _ => none

def items? : Json → Option (List Json)
  | array items => some items
  | _ => none

/-- The last member of an object with a name. -/
def member? (name : String) : Json → Option Json
  | object members => (members.reverse.find? fun m => m.1 == some name).map (·.2)
  | _ => none

/-! ## Writing -/

/-- The escaped form of a character in a JSON string. -/
def escapeChar (c : Char) : List Char :=
  if c = '"' then ['\\', '"']
  else if c = '\\' then ['\\', '\\']
  else if c.toNat = 0x08 then ['\\', 'b']
  else if c.toNat = 0x0c then ['\\', 'f']
  else if c = '\n' then ['\\', 'n']
  else if c = '\r' then ['\\', 'r']
  else if c = '\t' then ['\\', 't']
  else if c.toNat < 0x20 then
    ['\\', 'u', '0', '0', Text.hexDigit (c.toNat / 16), Text.hexDigit (c.toNat % 16)]
  else [c]

/-- The characters of a JSON string that denotes a text. -/
def writeText (cs : List Char) : List Char := '"' :: cs.flatMap escapeChar ++ ['"']

/-- Lists of characters with a separator in between. -/
def separated (separator : Char) : List (List Char) → List Char
  | [] => []
  | [x] => x
  | x :: rest => x ++ separator :: separated separator rest

/-- The characters of a string; one that denotes no text is written with half a pair. -/
def writeString : JsonText → List Char
  | some s => writeText s.toList
  | none => "\"\\ud800\"".toList

mutual

/-- The characters of a value, without blanks. -/
def write : Json → List Char
  | null => "null".toList
  | bool true => "true".toList
  | bool false => "false".toList
  | number literal => literal
  | string t => writeString t
  | array items => '[' :: separated ',' (writeItems items) ++ [']']
  | object members => '\x7b' :: separated ',' (writeMembers members) ++ ['\x7d']

def writeItems : List Json → List (List Char)
  | [] => []
  | item :: rest => write item :: writeItems rest

def writeMembers : List (JsonText × Json) → List (List Char)
  | [] => []
  | (name, value) :: rest => (writeString name ++ ':' :: write value) :: writeMembers rest

end

/-- A value as text, without blanks. -/
def compact (j : Json) : String := String.ofList j.write

end Json

end RegisterMap
