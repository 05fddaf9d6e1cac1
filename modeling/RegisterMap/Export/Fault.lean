import RegisterMap.Tree.Fault

/-!
# Faults of an export

The reasons that abort an export.  In all of them the generated code would be wrong, so there is no
going on.
-/

namespace RegisterMap

open Text (hex)

/-- An export that is given up. -/
inductive ExportFault where
  /-- A node of this kind has no generated type. -/
  | unsupportedKind (path : String) (kind : NodeKind)
  /-- A node was hidden in one place and shown in another. -/
  | inconsistentHiding (path : String)
  /-- One hash goes with two type names. -/
  | nameMismatch (hash : Int) (path existing computed : String)
  | identifierCollision (identifier first second : String)
  /-- A node that is referred to has no generated type. -/
  | missingType (path : String)
  /-- The two elements of the hash input of a field are not those of a plain field. -/
  | malformedSentinel (path items : String)
  /-- A property that is to be exported has a meaning of its own here. -/
  | reservedProperty (name : String)
  /-- A pattern of hidden paths is not a pattern. -/
  | invalidPattern (pattern : String)
  | topHidden (path : String)
  | unreadable (file : String)
  | invalidConfiguration (file : String)
  | tree (cause : TreeFault)
  /-- An address or a count of elements is too wide.  Nothing reports this: the program stops at the
  operation. -/
  | overflow (operation : Overflow)
deriving DecidableEq, Repr

/-- What a fault says; a hash shows as the 64 bits that represent it. -/
def ExportFault.message : ExportFault → String
  | unsupportedKind path kind => s!"{path}: {kind.shortName} nodes have no generated type"
  | inconsistentHiding path => s!"{path}: hide predicate changed its answer during the export"
  | nameMismatch hash path existing computed =>
    s!"hash {hex (UInt64.ofInt hash).toNat} is named {existing} but {path} computes {computed}"
  | identifierCollision identifier first second =>
    s!"identifier {identifier} is produced by both {first} and {second}"
  | missingType path => s!"{path}: no generated type recorded"
  | malformedSentinel path items =>
    s!"{path}: two element field hash input {items} is not a plain field"
  | reservedProperty name => s!"property {name} is reserved by the generator"
  | invalidPattern pattern => s!"invalid hide pattern {pattern}"
  | topHidden path => s!"the export root {path} is hidden"
  | unreadable file => s!"failed to read {file}"
  | invalidConfiguration file => s!"invalid configuration {file}"
  | tree cause => cause.message
  | overflow operation => operation.message

namespace ExportFault

/-- The program stops where the fault arises. -/
def aborts : ExportFault → Bool
  | tree cause => cause.aborts
  | overflow _ => true
  | _ => false

/-- An operation on addresses as a part of an export. -/
def ofOverflow {α : Type} (x : Except Overflow α) : Except ExportFault α := x.mapError overflow

end ExportFault

end RegisterMap
