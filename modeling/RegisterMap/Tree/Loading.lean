import RegisterMap.Tree.Fault
import RegisterMap.Tree.Node

/-!
# From descriptions to trees

A description is checked node by node in order, a parent before its children, and the first fault
found rejects it.  What a node needs is checked before its children; that the fields of a register
are there and do not overlap is checked after them.  Nodes are numbered in the order in which they
are met.
-/

namespace RegisterMap

/-! ## One node -/

/-- The shape of an array has dimensions, none of them zero, and a stride. -/
def ArrayShape.check (path : String) (a : ArrayShape) : Except TreeFault Unit :=
  if a.dimensions.isEmpty || a.dimensions.contains 0 then
    .error (.invalidArray path (.dimensions a.dimensions))
  else if a.stride = 0 then .error (.invalidArray path .zeroStride)
  else .ok ()

/-- A number of bits that a register or a physical access may have: a power of two from 8 on. -/
def isWidth (width max : Nat) : Bool := valueCount width.log2 == width && 8 ≤ width && width ≤ max

namespace Attributes

/-- The checked form of a register. -/
def toRegister (path : String) (a : Attributes) : Except TreeFault RegisterDetail := do
  let some width := a.registerWidth | throw (.missingAttribute path .registerWidth)
  unless isWidth width maxValueWidth do throw (.invalidSize path .registerWidth width)
  let accessWidth := a.accessWidth.getD (min width maxWordWidth)
  unless isWidth accessWidth maxWordWidth && accessWidth ≤ width do
    throw (.invalidSize path .accessWidth accessWidth)
  pure ⟨width, accessWidth⟩

/-- The checked form of a field of a register, if it lies in one. -/
def toField (path : String) (register : Option RegisterDetail) (a : Attributes) :
    Except TreeFault FieldDetail := do
  let some msb := a.msb | throw (.missingAttribute path .msb)
  let some lsb := a.lsb | throw (.missingAttribute path .lsb)
  let geometry ← (Geometry.ofMsbLsb msb lsb).mapError (.invalidGeometry path)
  if let some r := register then
    if r.width ≤ geometry.high then throw (.fieldOutOfRange path geometry.high r.width)
  let max := wordMask geometry.width
  if let some reset := a.reset then
    if max < reset then throw (.valueTooLarge path reset geometry.width)
  if let some e := a.encoding then
    if let some entry := e.enumeration.entries.find? (max < ·.value) then
      throw (.valueTooLarge path entry.value geometry.width)
  pure ⟨geometry, a.access.getD .readWrite, a.hardwareWritable.getD true, a.reset, a.encoding⟩

/-- The checked form of a memory. -/
def toMemory (path : String) (a : Attributes) : Except TreeFault MemoryDetail := do
  let some entries := a.memoryEntries | throw (.missingAttribute path .memoryEntries)
  let some width := a.memoryWidth | throw (.missingAttribute path .memoryWidth)
  unless 8 ≤ width ∧ width ≤ maxValueWidth do throw (.invalidSize path .memoryWidth width)
  let accessWidth := a.accessWidth.getD (min width maxWordWidth)
  unless 8 ≤ accessWidth ∧ accessWidth ≤ maxWordWidth ∧ width % accessWidth = 0 do
    throw (.invalidSize path .accessWidth accessWidth)
  if entries = 0 then throw (.invalidSize path .memoryEntries 0)
  pure ⟨entries, width, accessWidth, a.access.getD .readWrite⟩

/-- What a node is, by its attributes; `register` is the register that it lies in. -/
def toDetail (path : String) (register : Option RegisterDetail) (a : Attributes) :
    Except TreeFault Detail :=
  match a.kind with
  | .addressMap => pure .addressMap
  | .registerFile => pure .registerFile
  | .signal => pure .signal
  | .register => .register <$> a.toRegister path
  | .field => .field <$> a.toField path register
  | .memory => .memory <$> a.toMemory path

/-- The checked form of a node without its children. -/
def toComponent (path : String) (register : Option RegisterDetail) (a : Attributes) :
    Except TreeFault Component := do
  if let some array := a.array then array.check path
  let detail ← a.toDetail path register
  pure ⟨a.instName, a.typeName, a.scopePath, a.name, a.desc, a.offset, a.array, a.properties, detail⟩

end Attributes

/-! ## Registers -/

/-- Two fields share a bit. -/
def FieldDetail.overlaps (f g : FieldDetail) : Bool := f.geometry.bitmask &&& g.geometry.bitmask != 0

/-- Checks that no field overlaps one before it; `earlier` lists those, first one first. -/
def checkDisjoint (path : String) (earlier : List (String × FieldDetail)) :
    List (String × FieldDetail) → Except TreeFault Unit
  | [] => .ok ()
  | (name, f) :: rest =>
    match earlier.find? fun g => f.overlaps g.2 with
    | some (other, _) => .error (.fieldOverlap (path ++ "." ++ name) other)
    | none => checkDisjoint path (earlier ++ [(name, f)]) rest

/-- A register has fields, and they do not overlap. -/
def checkFields (path : String) (children : List Node) : Except TreeFault Unit :=
  let fields := children.filterMap fun n => n.detail.field?.map fun f => (n.instName, f)
  if fields.isEmpty then .error (.emptyRegister path) else checkDisjoint path [] fields

/-! ## Whole trees -/

namespace Node

/-- The path of a node in a node. -/
def childPath (above name : String) : String := if above = "" then name else above ++ "." ++ name

mutual

/-- The checked form of a description.  `above` is the path of the parent, `register` the register
that the parent is, and `id` the number of the node. -/
def ofDescription (above : String) (register : Option RegisterDetail) (id : Nat) :
    Description → Except TreeFault Node
  | .mk a children => do
    let path := childPath above a.instName
    let component ← a.toComponent path register
    let nodes ← ofDescriptions path component.detail (id + 1) children
    if a.kind = .register then checkFields path nodes
    pure (.mk id component nodes)

/-- The checked forms of the children of a node; `id` is the number of the first one. -/
def ofDescriptions (path : String) (parent : Detail) (id : Nat) :
    List Description → Except TreeFault (List Node)
  | [] => pure []
  | d :: rest => do
    unless parent.kind.mayContain d.attributes.kind do
      throw (.illegalChild (path ++ "." ++ d.attributes.instName) parent.kind d.attributes.kind)
    let node ← ofDescription path parent.register? id d
    let nodes ← ofDescriptions path parent (id + node.size) rest
    pure (node :: nodes)

end

end Node

/-- The tree of a description, whose root has to be an address map. -/
def Description.toNode (d : Description) : Except TreeFault Node :=
  if d.attributes.kind = .addressMap then Node.ofDescription "" none 0 d
  else .error (.rootNotAddressMap d.attributes.kind)

end RegisterMap
