/-!
# Field enumerations

An enumeration gives names to values of a field.  Its entries are ordered, and neither their names
nor their values need to be distinct: a lookup takes the first entry that fits.  A member names its
enumeration, so a member of one enumeration is not taken for a member of another.
-/

namespace RegisterMap

/-- One named value. -/
structure EnumEntry where
  value : Nat
  name : String
  desc : Option String
deriving DecidableEq, Repr, Inhabited

/-- A symbolic value: the name and value of an entry, and the enumeration that it belongs to. -/
structure EnumMember where
  enumeration : String
  name : String
  value : Nat
deriving DecidableEq, Repr, Inhabited

/-- A named, ordered list of entries. -/
structure Enumeration where
  name : String
  /-- The entries in order. -/
  entries : List EnumEntry
deriving DecidableEq, Repr, Inhabited

namespace Enumeration

/-- The enumeration with the given values and names, none of them documented. -/
def ofPairs (name : String) (pairs : List (Nat × String)) : Enumeration :=
  ⟨name, pairs.map fun p => ⟨p.1, p.2, none⟩⟩

/-- The entry of an enumeration as one of its members. -/
def toMember (e : Enumeration) (entry : EnumEntry) : EnumMember := ⟨e.name, entry.name, entry.value⟩

/-- The member with a value: the first entry that has it. -/
def memberOf? (e : Enumeration) (value : Nat) : Option EnumMember :=
  (e.entries.find? (·.value == value)).map e.toMember

/-- The member with a name: the first entry that has it. -/
def memberNamed? (e : Enumeration) (name : String) : Option EnumMember :=
  (e.entries.find? (·.name == name)).map e.toMember

/-- The member is one of this enumeration: some entry has both its name and its value. -/
def contains (e : Enumeration) (m : EnumMember) : Bool :=
  m.enumeration == e.name && e.entries.any fun entry => entry.name == m.name && entry.value == m.value

end Enumeration

/-! ## Types of members -/

/-- A type whose elements are the members of one enumeration. -/
class FieldEnum (α : Type) where
  enumeration : String
  value : α → Nat
  name : α → String
  ofValue? : Nat → Option α

namespace FieldEnum

variable {α : Type} [FieldEnum α]

/-- An element as a member of the enumeration. -/
def toMember (a : α) : EnumMember := ⟨enumeration α, name a, value a⟩

/-- The element that a member stands for: enumeration, value and name have to agree. -/
def ofMember? (m : EnumMember) : Option α :=
  if m.enumeration = enumeration α then
    (ofValue? (α := α) m.value).filter fun a => name a == m.name
  else none

end FieldEnum

end RegisterMap
