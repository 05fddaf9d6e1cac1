import RegisterMap.Json.Value
import RegisterMap.Text.Runs

/-!
# Taking JSON values apart

Readers of members and items that say what was missing.  An integer may be written as a number, or
as a text of decimal or hexadecimal digits, since many tools do not keep large numbers exactly.
-/

namespace RegisterMap

namespace Json

/-- A value, or the name of what was malformed. -/
abbrev Decoded := Except String

/-- The natural number that digits write, hexadecimal after `0x`. -/
def digitsNatural? (digits : List Char) : Option Nat :=
  match digits with
  | [] | ['0', 'x'] => none
  | '0' :: 'x' :: rest =>
    rest.foldlM (fun acc c => (Text.hexDigitValue? c).map fun d => 16 * acc + d) 0
  | digits => if digits.all Char.isDigit then some (digitsValue digits) else none

/-- The integer of a number or a text of digits. -/
def exactInteger? : Json → Option Int
  | .string (some s) =>
    match s.toList with
    | '-' :: rest => (digitsNatural? rest).map fun n => -(n : Int)
    | digits => (digitsNatural? digits).map fun n => (n : Int)
  | j => j.integer?

/-- A value that is there, or the complaint that it is not. -/
def require {α : Type} (what : String) : Option α → Decoded α
  | some a => .ok a
  | none => .error what

/-- A member that is present and not null. -/
def optional? (j : Json) (name : String) : Option Json :=
  match j.member? name with
  | some .null => none
  | other => other

/-- A member that has to be present. -/
def get (j : Json) (name : String) : Decoded Json := require name (j.member? name)

def toInt (j : Json) : Decoded Int := require "integer" j.exactInteger?

/-- An integer that is not negative. -/
def toNat (j : Json) : Decoded Nat := do
  match ← j.toInt with
  | .ofNat n => pure n
  | .negSucc _ => throw "natural"

def toText (j : Json) : Decoded String := require "text" j.text?

def toItems (j : Json) : Decoded (List Json) := require "array" j.items?

/-- The two items of an array of two. -/
def toPair (j : Json) : Decoded (Json × Json) := do
  match ← j.toItems with
  | [a, b] => pure (a, b)
  | _ => throw "pair"

def toNats (j : Json) : Decoded (List Nat) := do (← j.toItems).mapM toNat

/-- A member that is a natural number. -/
def nat (j : Json) (name : String) : Decoded Nat := do (← j.get name).toNat

/-- A member that is a text. -/
def text (j : Json) (name : String) : Decoded String := do (← j.get name).toText

/-- A member that is an array of natural numbers. -/
def nats (j : Json) (name : String) : Decoded (List Nat) := do (← j.get name).toNats

/-- A member that is an array. -/
def items (j : Json) (name : String) : Decoded (List Json) := do (← j.get name).toItems

/-- What a reader makes of a member, if it is present. -/
def optional {α : Type} (j : Json) (name : String) (read : Json → Decoded α) : Decoded (Option α) :=
  match j.optional? name with
  | some v => some <$> read v
  | none => pure none

/-- A member that is an array and may be missing. -/
def itemsOrNone (j : Json) (name : String) : Decoded (List Json) := do
  pure ((← j.optional name toItems).getD [])

/-- A member that is a truth value, if it is present. -/
def flag? (j : Json) (name : String) : Option Bool := (j.optional? name).bind bool?

/-- A member that is a truth value, false if it is missing. -/
def flag (j : Json) (name : String) : Bool := (j.flag? name).getD false

end Json

end RegisterMap
