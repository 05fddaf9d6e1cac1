/-!
# Bits of register and memory values

Register, field and memory values are natural numbers below `2 ^ 128`; one physical access moves a
word of at most 64 bits.  This file holds the arithmetic that connects the two: masks, the reversal
of a bit range, the splitting of a value into words and its reassembly, and bit vectors, which are
lists of Booleans whose first element is bit 0.

All functions are total on natural numbers.  Where a shift would carry bits past the widest value,
those bits are dropped, so every result stays a value.
-/

namespace RegisterMap

/-- Widest register, field or memory entry, in bits. -/
def maxValueWidth : Nat := 128

/-- Widest single physical access, in bits. -/
def maxWordWidth : Nat := 64

/-- Width of the numbers that bits are numbered and counted with, in bits. -/
def countWidth : Nat := 32

/-! ## Masks -/

/-- The number of values that `width` bits can hold: two to the power of the width. -/
def valueCount (width : Nat) : Nat := Nat.pow 2 width

/-- The ones in the lowest `width` bits of a word. -/
def wordMask (width : Nat) : Nat := valueCount (min width maxWordWidth) - 1

/-- The ones in the lowest `width` bits of a value. -/
def valueMask (width : Nat) : Nat := valueCount (min width maxValueWidth) - 1

/-- Number of bits in the range `low..=high`. -/
def span (low high : Nat) : Nat := high - low + 1

/-- The part of a number that a value can hold. -/
def truncate (n : Nat) : Nat := n % valueCount maxValueWidth

/-- The ones in bits `low..=high`. -/
def rangeMask (low high : Nat) : Nat := truncate (valueMask (span low high) <<< low)

/-- `base` with every bit of `mask` cleared.  The complement of the mask is taken within the widest
value, so a base that is a value keeps all its other bits. -/
def clearBits (base mask : Nat) : Nat := base &&& (mask ^^^ valueMask maxValueWidth)

/-! ## Reversal -/

/-- The lowest `width` bits in opposite order: bit `i` moves to bit `width - 1 - i`, and the bits
above the width are dropped. -/
def reverseBits (value : Nat) : (width : Nat) → Nat
  | 0 => 0
  | width + 1 => value % 2 * valueCount width + reverseBits (value / 2) width

/-! ## Words -/

/-- Concatenates words of `wordWidth` bits, the first one in the least significant bits. -/
def joinWords (wordWidth : Nat) : List Nat → Nat
  | [] => 0
  | word :: rest => truncate ((word &&& wordMask wordWidth) ||| (joinWords wordWidth rest <<< wordWidth))

/-- The low `width` bits of a value as `width / wordWidth` words, least significant first. -/
def splitWords (value width wordWidth : Nat) : List Nat :=
  (List.range (width / wordWidth)).map fun i => (value >>> (i * wordWidth)) &&& wordMask wordWidth

/-- Consecutive groups of `size` elements; the last group may be shorter.  There is no group of
size zero, so a zero size gives no groups. -/
def groupsOf {α : Type} (size : Nat) (xs : List α) : List (List α) :=
  if size = 0 ∨ xs = [] then [] else xs.take size :: groupsOf size (xs.drop size)
termination_by xs.length
decreasing_by
  rename_i h
  have : 0 < xs.length := List.length_pos_iff.mpr fun e => h (Or.inr e)
  simp only [List.length_drop]
  omega

/-! ## Bit vectors -/

/-- The lowest `width` bits of a value, bit 0 first. -/
def bitsOf (width value : Nat) : List Bool := (List.range width).map value.testBit

/-- The value whose bits are listed, bit 0 first. -/
def ofBits : List Bool → Nat
  | [] => 0
  | bit :: rest => bit.toNat + 2 * ofBits rest

/-- The concatenation of values of `width` bits, the first one in the least significant bits. -/
def wordsToBits (values : List Nat) (width : Nat) : List Bool := values.flatMap (bitsOf width)

/-- A bit vector cut into values of `width` bits; the last value may come from fewer bits. -/
def bitsToWords (bits : List Bool) (width : Nat) : List Nat := (groupsOf width bits).map ofBits

/-- A bit vector in opposite order. -/
def reverseBitVector (bits : List Bool) : List Bool := bits.reverse

/-! ## Sizes in memory -/

/-- Bytes occupied by one entry of `width` bits: the least power of two of bytes that holds it. -/
def entryBytes (width : Nat) : Nat :=
  let bytes := (width + 7) / 8
  if bytes ≤ 1 then 1 else valueCount ((bytes - 1).log2 + 1)

end RegisterMap
