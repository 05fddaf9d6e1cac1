import RegisterMap.Field.Geometry
import RegisterMap.Tree.Description

/-!
# Nodes

A checked register tree.  Every node carries what its kind needs and no more, together with the
number that it has when the nodes of the whole tree are counted in order, parents before children.
An array is one node with its shape; whoever needs the elements unrolls it.
-/

namespace RegisterMap

/-- What a field is. -/
structure FieldDetail where
  geometry : Geometry
  access : Access
  hardwareWritable : Bool
  reset : Option Nat
  encoding : Option FieldEncoding
deriving DecidableEq, Repr, Inhabited

/-- What a register is. -/
structure RegisterDetail where
  /-- The number of bits. -/
  width : Nat
  /-- The number of bits of one physical access. -/
  accessWidth : Nat
deriving DecidableEq, Repr, Inhabited

/-- What a memory is. -/
structure MemoryDetail where
  entries : Nat
  /-- The number of bits of an entry. -/
  width : Nat
  /-- The number of bits of one physical access. -/
  accessWidth : Nat
  access : Access
deriving DecidableEq, Repr, Inhabited

/-- What a node is, by its kind. -/
inductive Detail where
  | addressMap
  | registerFile
  | register (r : RegisterDetail)
  | field (f : FieldDetail)
  | memory (m : MemoryDetail)
  | signal
deriving DecidableEq, Repr, Inhabited

namespace Detail

def kind : Detail → NodeKind
  | addressMap => .addressMap
  | registerFile => .registerFile
  | register _ => .register
  | field _ => .field
  | memory _ => .memory
  | signal => .signal

/-- The register, if it is one. -/
def register? : Detail → Option RegisterDetail
  | register r => some r
  | _ => none

/-- The field, if it is one. -/
def field? : Detail → Option FieldDetail
  | field f => some f
  | _ => none

end Detail

/-- A node without the nodes in it. -/
structure Component where
  /-- The name of the instance in its parent. -/
  instName : String
  /-- The name of the definition, if it has one. -/
  typeName : Option String
  /-- The scope of the definition, its levels separated by `::`. -/
  scopePath : Option String
  name : Option String
  desc : Option String
  /-- The offset in bytes from the parent; the bits of a field are in its geometry. -/
  offset : Nat
  array : Option ArrayShape
  properties : Properties
  detail : Detail
deriving DecidableEq, Repr, Inhabited

namespace Component

def kind (c : Component) : NodeKind := c.detail.kind

/-- The name of the definition.  Definitions without a name go by their kind alone, so that equal
ones in different places remain interchangeable. -/
def baseTypeName (c : Component) : String := c.typeName.getD c.kind.anonymousTypeName

/-- The name of the definition in its scope: the part of a type name that is not the hash. -/
def typeKey (c : Component) : String :=
  match c.scopePath with
  | some scope => if scope = "" then c.baseTypeName else scope ++ "::" ++ c.baseTypeName
  | none => c.baseTypeName

end Component

/-- A node and everything in it. -/
inductive Node where
  | mk (id : Nat) (component : Component) (children : List Node)
deriving Repr, Inhabited

namespace Node

/-- The number of the node in the whole tree. -/
def id : Node → Nat
  | mk id _ _ => id

def component : Node → Component
  | mk _ c _ => c

/-- The nodes in it, in order. -/
def children : Node → List Node
  | mk _ _ cs => cs

def instName (n : Node) : String := n.component.instName

def detail (n : Node) : Detail := n.component.detail

def kind (n : Node) : NodeKind := n.component.kind

def property? (n : Node) (name : String) : Option PropertyValue :=
  Properties.get? n.component.properties name

mutual

/-- The number of nodes in a tree, its root included. -/
def size : Node → Nat
  | mk _ _ cs => sizes cs + 1

/-- The number of nodes in several trees. -/
def sizes : List Node → Nat
  | [] => 0
  | n :: rest => size n + sizes rest

end

/-! ## Registers -/

/-- The fields of a register, in order. -/
def fields (n : Node) : List FieldDetail := n.children.filterMap (·.detail.field?)

/-- A register is readable when one of its fields is. -/
def readable (n : Node) : Bool := n.fields.any (·.access.readable)

/-- A register is writable when one of its fields is. -/
def writable (n : Node) : Bool := n.fields.any (·.access.writable)

/-- The bits of a field after reset, in register position. -/
def resetBits (f : FieldDetail) : Nat :=
  ((f.reset.bind fun r => (f.geometry.encode r).toOption).getD 0)

/-- The value of a register after reset. -/
def resetValue (n : Node) : Nat := n.fields.foldl (fun acc f => acc ||| resetBits f) 0

end Node

end RegisterMap
