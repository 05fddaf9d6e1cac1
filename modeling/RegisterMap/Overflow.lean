import RegisterMap.Bits

/-!
# Sums and products of addresses

Addresses, distances and counts of elements have 64 bits.  A sum or a product that needs more bits
has no outcome: the program stops at the operation.  So it does at a buffer that would take more than
half of the address space.
-/

namespace RegisterMap

/-- Width of addresses, distances and counts of elements, in bits. -/
def addressWidth : Nat := 64

/-- An operation whose result has too many bits. -/
inductive Overflow where
  | sum
  | product
  /-- The buffer that is asked for is too large. -/
  | capacity
deriving DecidableEq, Repr

def Overflow.message : Overflow → String
  | sum => "attempt to add with overflow"
  | product => "attempt to multiply with overflow"
  | capacity => "capacity overflow"

/-- The sum of two numbers, if it is not too wide. -/
def checkedSum (m n : Nat) : Except Overflow Nat :=
  if m + n < valueCount addressWidth then .ok (m + n) else .error .sum

/-- The product of two numbers, if it is not too wide. -/
def checkedProduct (m n : Nat) : Except Overflow Nat :=
  if m * n < valueCount addressWidth then .ok (m * n) else .error .product

/-- The address of an element behind others at some distance. -/
def elementAddress (base i distance : Nat) : Except Overflow Nat := do
  checkedSum base (← checkedProduct i distance)

/-- Makes room for items of some bytes each, if a buffer can be as large. -/
def checkedBuffer (items bytes : Nat) : Except Overflow Unit :=
  if items * bytes < valueCount (addressWidth - 1) then .ok () else .error .capacity

end RegisterMap
