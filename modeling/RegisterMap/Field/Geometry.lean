import RegisterMap.Fault

/-!
# Field geometry

A field occupies the bits `low..=high` of its register.  Its logical bit 0 is either the least
significant bit of that range or, for a reversed field, the most significant one.  Decoding cuts
the bits out of a register value and undoes the reversal; encoding puts a field value into register
position.  The two are inverse on the bits of the field and leave all other bits alone.

A geometry is stored as its lowest bit, its width and its orientation, so the high bit and the two
significant ends are consequences and cannot contradict one another.
-/

namespace RegisterMap

/-- Position of a field inside its register. -/
structure Geometry where
  /-- Lowest register bit of the field. -/
  low : Nat
  /-- Number of bits. -/
  width : Nat
  /-- Logical bit 0 is the highest register bit of the field. -/
  reversed : Bool
deriving DecidableEq, Repr, Inhabited

namespace Geometry

/-- Highest register bit of the field. -/
def high (g : Geometry) : Nat := g.low + g.width - 1

/-- Register bit that holds the most significant bit of the field value. -/
def msb (g : Geometry) : Nat := if g.reversed then g.low else g.high

/-- Register bit that holds the least significant bit of the field value. -/
def lsb (g : Geometry) : Nat := if g.reversed then g.high else g.low

/-! ## Construction -/

/-- The geometry with the given ends and width.  The width has to be the number of bits in the
range, the range has to lie in the widest register, and `msb` and `lsb` have to be the two ends in
either order.  A single bit fits both orders and is not reversed.

The bits are counted before it is known that they lie in a register, so a range may have more of
them than a count can tell. -/
def ofBounds (low high msb lsb width : Nat) : Except Fault Geometry :=
  if high < low then .error (.invalidGeometry (.highBelowLow high low))
  else if valueCount countWidth ≤ span low high then .error (.invalidGeometry .uncountable)
  else if span low high ≠ width then .error (.invalidGeometry (.widthMismatch width low high))
  else if maxValueWidth ≤ high then .error (.invalidGeometry (.beyondRegister high))
  else if msb = high ∧ lsb = low then .ok ⟨low, width, false⟩
  else if msb = low ∧ lsb = high then .ok ⟨low, width, true⟩
  else .error (.invalidGeometry (.endsMismatch msb lsb low high))

def ofMsbLsb (msb lsb : Nat) : Except Fault Geometry :=
  let low := min msb lsb
  let high := max msb lsb
  ofBounds low high msb lsb (span low high)

/-- The geometry of bits `low..=high` in storage order. -/
def upward (low high : Nat) : Except Fault Geometry := ofMsbLsb high low

/-- The geometry of bits `low..=high` against storage order. -/
def downward (low high : Nat) : Except Fault Geometry := ofMsbLsb low high

/-! ## Masks -/

/-- The register bits of the field. -/
def bitmask (g : Geometry) : Nat := rangeMask g.low g.high

/-- The bits of a register of the given width that lie outside the field. -/
def inverseBitmask (g : Geometry) (registerWidth : Nat) : Nat :=
  clearBits (valueMask registerWidth) g.bitmask

/-- The largest value of the field. -/
def maxValue (g : Geometry) : Nat := valueMask g.width

/-! ## Codec -/

/-- Turns the bits of the field into its value and back: reversed fields list them from the top. -/
def orient (g : Geometry) (bits : Nat) : Nat := if g.reversed then reverseBits bits g.width else bits

/-- The field value inside a register value, which has to fit the register. -/
def decode (g : Geometry) (raw registerWidth : Nat) : Except Fault Nat :=
  if valueMask registerWidth < raw then .error (.tooLarge raw (valueMask registerWidth))
  else .ok (g.orient ((raw &&& g.bitmask) >>> g.low))

/-- A field value in register position, all other bits zero. -/
def encode (g : Geometry) (value : Nat) : Except Fault Nat :=
  if g.maxValue < value then .error (.tooLarge value g.maxValue)
  else .ok (truncate (g.orient value <<< g.low))

/-- `encode` for a signed value: negative values are refused first. -/
def encodeSigned (g : Geometry) (value : Int) : Except Fault Nat :=
  match value with
  | .ofNat n => g.encode n
  | .negSucc _ => .error (.negative value)

end Geometry

end RegisterMap
