import RegisterMap.Access
import RegisterMap.Field.Enumeration
import RegisterMap.Overflow
import RegisterMap.Tree.Kind
import RegisterMap.Tree.Property

/-!
# Descriptions of register trees

A register tree as the compiler of a register language writes it down: every node with all the
attributes that any kind of node may have, and nothing checked.  Which attributes a kind needs, and
what their values have to satisfy, is decided when a checked tree is made of the description.
-/

namespace RegisterMap

/-- How a node is repeated. -/
structure ArrayShape where
  /-- The number of elements in each dimension. -/
  dimensions : List Nat
  /-- The distance in bytes of consecutive elements. -/
  stride : Nat
deriving DecidableEq, Repr, Inhabited

namespace ArrayShape

/-- The number of elements. -/
def length (a : ArrayShape) : Except Overflow Nat := a.dimensions.foldlM checkedProduct 1

def isEmpty (a : ArrayShape) : Except Overflow Bool := a.length.map (· == 0)

end ArrayShape

/-- The enumeration of a field, with the scope of its definition. -/
structure FieldEncoding where
  enumeration : Enumeration
  /-- The scope of the definition, its levels separated by `::`. -/
  scopePath : Option String
deriving DecidableEq, Repr, Inhabited

/-- What a node may say about itself, whatever its kind. -/
structure Attributes where
  kind : NodeKind
  /-- The name of the instance in its parent. -/
  instName : String
  /-- The name of the definition, if it has one. -/
  typeName : Option String
  /-- The scope of the definition, its levels separated by `::`. -/
  scopePath : Option String
  name : Option String
  desc : Option String
  /-- The offset in bytes from the parent. -/
  offset : Nat
  array : Option ArrayShape
  properties : Properties
  /-- The least significant bit of a field. -/
  lsb : Option Nat
  /-- The most significant bit of a field. -/
  msb : Option Nat
  /-- The software access of a field or memory. -/
  access : Option Access
  hardwareWritable : Option Bool
  /-- The value of a field after reset. -/
  reset : Option Nat
  encoding : Option FieldEncoding
  registerWidth : Option Nat
  /-- The width of a physical access to a register or memory. -/
  accessWidth : Option Nat
  /-- The number of entries of a memory. -/
  memoryEntries : Option Nat
  /-- The width of an entry of a memory. -/
  memoryWidth : Option Nat
deriving DecidableEq, Repr, Inhabited

/-- The description of a node and everything in it. -/
inductive Description where
  | mk (attributes : Attributes) (children : List Description)
deriving Repr, Inhabited

namespace Description

/-- What the root of the description says about itself. -/
def attributes : Description → Attributes
  | mk a _ => a

def children : Description → List Description
  | mk _ cs => cs

end Description

end RegisterMap
