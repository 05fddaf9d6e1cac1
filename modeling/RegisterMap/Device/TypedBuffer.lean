import RegisterMap.Bits

/-!
# Typed buffers

The contents of a block, stored in the narrowest unsigned machine type that holds one entry.
-/

namespace RegisterMap

/-- The unsigned machine types, by width. -/
inductive WordSize where
  | bits8
  | bits16
  | bits32
  | bits64
  | bits128
deriving DecidableEq, Repr, Inhabited

namespace WordSize

/-- The width in bits. -/
def width : WordSize → Nat
  | bits8 => 8
  | bits16 => 16
  | bits32 => 32
  | bits64 => 64
  | bits128 => 128

/-- The type that holds an entry of `width` bits. -/
def ofEntry (width : Nat) : WordSize :=
  match entryBytes width with
  | 1 => bits8
  | 2 => bits16
  | 4 => bits32
  | 8 => bits64
  | _ => bits128

end WordSize

/-- Elements of one machine type. -/
structure TypedBuffer where
  size : WordSize
  elements : List Nat
deriving DecidableEq, Repr, Inhabited

namespace TypedBuffer

/-- A buffer of a given type; each element keeps the bits that the type holds. -/
def make (size : WordSize) (values : List Nat) : TypedBuffer :=
  ⟨size, values.map fun v => v % valueCount size.width⟩

/-- The buffer for entries of `width` bits. -/
def ofValues (width : Nat) (values : List Nat) : TypedBuffer := make (.ofEntry width) values

def toValues (b : TypedBuffer) : List Nat := b.elements

def length (b : TypedBuffer) : Nat := b.elements.length

def isEmpty (b : TypedBuffer) : Bool := b.elements.isEmpty

def elementWidth (b : TypedBuffer) : Nat := b.size.width

end TypedBuffer

end RegisterMap
