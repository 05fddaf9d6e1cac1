import RegisterMap.Access
import RegisterMap.Field.Enumeration
import RegisterMap.Field.Geometry

/-!
# Fields and their values

The layout of a field: where it lies, what software may do with it, the enumeration that names its
values, and its reset value.  A field without an enumeration takes and gives integers; a field with
one takes and gives members of that enumeration and nothing else.
-/

namespace RegisterMap

/-- Logical value of a field. -/
inductive FieldValue where
  | int (value : Nat)
  /-- The value of a field with an enumeration. -/
  | member (m : EnumMember)
deriving DecidableEq, Repr, Inhabited

namespace FieldValue

/-- The integer of a plain value. -/
def int? : FieldValue → Option Nat
  | int v => some v
  | member _ => none

/-- The member of a symbolic value. -/
def member? : FieldValue → Option EnumMember
  | int _ => none
  | member m => some m

def sort : FieldValue → ValueSort
  | int _ => .integer
  | member m => .enumeration m.enumeration

/-- A value as text: an integer in hexadecimal, a member after the name of its enumeration. -/
def display : FieldValue → String
  | int v => Text.hex v
  | member m => m.enumeration ++ "." ++ m.name

end FieldValue

/-- Values of named fields, in the order of a register's fields. -/
abbrev FieldValues := List (String × FieldValue)

/-- Everything the codec needs to know about one field. -/
structure FieldLayout where
  name : String
  geometry : Geometry
  access : Access
  encoding : Option Enumeration
  reset : Option Nat
deriving DecidableEq, Repr, Inhabited

namespace FieldLayout

/-- The sort of values that a field takes. -/
def sort (f : FieldLayout) : ValueSort :=
  match f.encoding with
  | some e => .enumeration e.name
  | none => .integer

/-- The value of the field inside a register value. -/
def decode (f : FieldLayout) (raw registerWidth : Nat) : Except Fault FieldValue := do
  let value ← f.geometry.decode raw registerWidth
  match f.encoding with
  | none => pure (.int value)
  | some e =>
    match e.memberOf? value with
    | some m => pure (.member m)
    | none => throw (.notEnumMember e.name value)

/-- A field value in register position, all other bits zero. -/
def encode (f : FieldLayout) (value : FieldValue) : Except Fault Nat :=
  match f.encoding, value with
  | none, .int v => f.geometry.encode v
  | some e, .member m =>
    if e.contains m then f.geometry.encode m.value
    else .error (.wrongType f.name f.sort value.sort)
  | _, _ => .error (.wrongType f.name f.sort value.sort)

end FieldLayout

end RegisterMap
