import RegisterMap.Fault
import RegisterMap.Tree.Kind

/-!
# Faults of register trees

The reasons why a description is not a register tree, and why a query on a tree fails.  All but the
last two name the node at fault by its path.
-/

namespace RegisterMap

open Text (hex bracketed)

/-- The attributes that a kind of node cannot do without. -/
inductive NeededAttribute where
  | registerWidth
  | msb
  | lsb
  | memoryEntries
  | memoryWidth
deriving DecidableEq, Repr

/-- The word that names an attribute in a description. -/
def NeededAttribute.keyword : NeededAttribute → String
  | registerWidth => "regwidth"
  | msb => "msb"
  | lsb => "lsb"
  | memoryEntries => "mementries"
  | memoryWidth => "memwidth"

/-- The sizes that are restricted. -/
inductive SizeAttribute where
  | registerWidth
  | accessWidth
  | memoryWidth
  | memoryEntries
deriving DecidableEq, Repr

/-- The word that names a size in a description. -/
def SizeAttribute.keyword : SizeAttribute → String
  | registerWidth => "regwidth"
  | accessWidth => "accesswidth"
  | memoryWidth => "memwidth"
  | memoryEntries => "mementries"

/-- What is wrong with the shape of an array. -/
inductive ArrayFault where
  /-- There are no dimensions, or one of them is zero. -/
  | dimensions (dimensions : List Nat)
  /-- All elements would lie at the same address. -/
  | zeroStride
deriving DecidableEq, Repr

def ArrayFault.message : ArrayFault → String
  | dimensions ds => "dimensions " ++ bracketed (ds.map toString)
  | zeroStride => "stride 0"

/-- A rejected description or a failed query. -/
inductive TreeFault where
  | unreadable (file : String)
  | malformed
  /-- An attribute that the kind needs is missing. -/
  | missingAttribute (path : String) (needed : NeededAttribute)
  /-- The bit numbers of a field describe no field. -/
  | invalidGeometry (path : String) (cause : Fault)
  | invalidSize (path : String) (size : SizeAttribute) (value : Nat)
  /-- A node lies in a node that may not contain it. -/
  | illegalChild (path : String) (parent child : NodeKind)
  | fieldOutOfRange (path : String) (high registerWidth : Nat)
  /-- Two fields of a register share a bit. -/
  | fieldOverlap (path other : String)
  | emptyRegister (path : String)
  /-- A reset value or an enumeration value does not fit its field. -/
  | valueTooLarge (path : String) (value width : Nat)
  /-- The shape of an array is not one. -/
  | invalidArray (path : String) (cause : ArrayFault)
  /-- The root of a tree, or of an export, is not an address map. -/
  | rootNotAddressMap (kind : NodeKind)
  /-- There is no node at a path. -/
  | notFound (path : String)
deriving DecidableEq, Repr

namespace TreeFault

def message : TreeFault → String
  | unreadable file => s!"failed to read {file}"
  | malformed => "malformed register tree"
  | missingAttribute path needed => s!"{path}: missing attribute {needed.keyword}"
  | invalidGeometry path _ => s!"{path}: invalid field bits"
  | invalidSize path size value => s!"{path}: invalid {size.keyword} {value}"
  | illegalChild path parent child =>
    s!"{path}: {child.shortName} cannot be placed in {parent.shortName}"
  | fieldOutOfRange path high registerWidth =>
    s!"{path}: bit {high} does not fit a {registerWidth} bit register"
  | fieldOverlap path other => s!"{path}: overlaps field {other}"
  | emptyRegister path => s!"{path}: register has no fields"
  | valueTooLarge path value width => s!"{path}: value {hex value} does not fit in {width} bits"
  | invalidArray path cause => s!"{path}: invalid array {cause.message}"
  | rootNotAddressMap kind => s!"root node must be an addrmap, found {kind.shortName}"
  | notFound path => s!"no node at path {path}"

/-- The fault of register access that caused a fault. -/
def cause? : TreeFault → Option Fault
  | invalidGeometry _ cause => some cause
  | _ => none

/-- The program stops where the fault arises. -/
def aborts (e : TreeFault) : Bool := e.cause?.any Fault.aborts

end TreeFault

end RegisterMap
