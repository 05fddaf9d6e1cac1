import Std.Data.HashMap
import RegisterMap.Bus.Port

/-!
# A simulated bus

A sparse store of words keyed by byte address.  Every access stores or loads the whole word at its
start address, so the simulator agrees with the register map as long as a location is always
accessed with one width.  Reads of an address can be overridden, and every access is counted.
-/

namespace RegisterMap

/-- Number of accesses of each kind. -/
structure AccessCounts where
  reads : Nat
  writes : Nat
  blockReads : Nat
  blockWrites : Nat
deriving DecidableEq, Repr, Inhabited

namespace AccessCounts

def zero : AccessCounts := ⟨0, 0, 0, 0⟩

def totalReads (c : AccessCounts) : Nat := c.reads + c.blockReads

def totalWrites (c : AccessCounts) : Nat := c.writes + c.blockWrites

/-- Counts one more access of a kind. -/
def count (c : AccessCounts) : CallKind → AccessCounts
  | .read => { c with reads := c.reads + 1 }
  | .write => { c with writes := c.writes + 1 }
  | .readBlock => { c with blockReads := c.blockReads + 1 }
  | .writeBlock => { c with blockWrites := c.blockWrites + 1 }

end AccessCounts

/-- The state of a simulated bus. -/
structure Simulator where
  /-- The words that were stored; all others are zero. -/
  store : Std.HashMap Nat Nat
  overrides : Std.HashMap Nat Nat
  counts : AccessCounts
  blockAccess : Bool

namespace Simulator

/-- An empty simulator that offers block accesses. -/
def new : Simulator := ⟨∅, ∅, .zero, true⟩

/-! ## Contents -/

/-- The content of a location, without counting an access. -/
def peek (s : Simulator) (address : Nat) : Nat := s.store.getD address 0

/-- Sets a location without counting an access. -/
def preload (s : Simulator) (address value : Nat) : Simulator :=
  { s with store := s.store.insert address value }

/-- Sets several locations, later ones last. -/
def preloadAll (s : Simulator) (values : List (Nat × Nat)) : Simulator :=
  values.foldl (fun s p => s.preload p.1 p.2) s

/-- Makes reads of an address return `value`, whatever is stored there. -/
def overrideRead (s : Simulator) (address value : Nat) : Simulator :=
  { s with overrides := s.overrides.insert address value }

/-- Lets reads of an address see the store again. -/
def clearOverride (s : Simulator) (address : Nat) : Simulator :=
  { s with overrides := s.overrides.erase address }

def resetCounts (s : Simulator) : Simulator := { s with counts := .zero }

/-- Forgets contents, overrides and counts, but not whether block accesses are offered. -/
def clear (s : Simulator) : Simulator := { new with blockAccess := s.blockAccess }

def setBlockAccess (s : Simulator) (enabled : Bool) : Simulator := { s with blockAccess := enabled }

/-! ## Accesses -/

/-- The word that a read of `width` bits sees. -/
def load (s : Simulator) (address width : Nat) : Nat :=
  (s.overrides[address]?.getD (s.peek address)) &&& wordMask width

/-- The store after a write of `width` bits. -/
def put (s : Simulator) (address width value : Nat) : Simulator :=
  s.preload address (value &&& wordMask width)

/-- Stores words of `width` bits back to back. -/
def putAll (s : Simulator) (address width : Nat) (data : List Nat) : Simulator :=
  data.zipIdx.foldl (fun s p => s.put (address + p.2 * entryBytes width) width p.1) s

def counted (s : Simulator) (kind : CallKind) : Simulator := { s with counts := s.counts.count kind }

/-- The answer to a call.  A simulator refuses nothing. -/
def answer (c : Call) (s : Simulator) : Except Fault c.Reply × Simulator :=
  match c with
  | .read address width _ => (.ok (s.load address width), s.counted .read)
  | .write address width _ data => (.ok (), (s.counted .write).put address width data)
  | .readBlock address width _ length =>
    (.ok ((List.range length).map fun i => s.load (address + i * entryBytes width) width),
      s.counted .readBlock)
  | .writeBlock address width _ data => (.ok (), (s.counted .writeBlock).putAll address width data)

/-- The bus that a simulator offers. -/
def toBus : Bus Simulator where
  answer := answer
  blockReads := blockAccess
  blockWrites := blockAccess

end Simulator

end RegisterMap
