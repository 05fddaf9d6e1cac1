import RegisterMap.Export.Config
import RegisterMap.Export.Hiding
import RegisterMap.Export.Naming

/-!
# Structural hashes

The type hash of a node covers everything that shapes its generated type and nothing about where the
node lies, so equal shapes have equal hashes wherever they are.  The placed hash adds the position,
and is what a parent folds in for each child.

A type hash is taken of the list of the kind, the name and description, the exported properties, the
attributes of the kind, what the children contribute, and the name of the definition.  A field with
nothing to tell but its access is plain: it needs no type of its own.

The computation is written once over the questions that it asks about the tree: which children are
shown, and whether a hash is known already.  It can be run without any memory, and with the memory
and the checks of an export.
-/

namespace RegisterMap

/-- The hash of the shape of a node. -/
inductive TypeHash where
  /-- A plain field, which needs no type of its own. -/
  | plain
  /-- A shape with a type of its own. -/
  | hash (value : Int)
deriving DecidableEq, Repr, Inhabited

namespace TypeHash

/-- The hash as an element of a hash input. -/
def item : TypeHash → HashItem
  | plain => .text "sentinel"
  | hash v => .int v

end TypeHash

/-- What hashes depend on besides the tree. -/
structure Hasher where
  digest : HashItem → Int
  /-- Names and descriptions are part of shapes. -/
  documented : Bool
  /-- The properties that are part of shapes, in order. -/
  properties : List String

namespace Hasher

def ofConfig [RunHash] (c : ExportConfig) : Hasher where
  digest := c.algorithm.digest
  documented := c.documented
  properties := c.propertyNames.filter fun p => !reservedProperties.contains p

/-- A property value as an element of a hash input. -/
def propertyItem : PropertyValue → HashItem
  | .flag b => .flag b
  | .int i => .int i
  | .text s => .text s

/-! ## Inputs -/

/-- What every node contributes to its shape. -/
def commonItems (h : Hasher) (c : Component) : List HashItem :=
  let documentation (key : String) (value : Option String) : List HashItem :=
    if h.documented then (value.map fun v => .pair key (.text v)).toList else []
  .text c.kind.tag :: documentation "name" c.name ++ documentation "desc" c.desc ++
    h.properties.filterMap fun p =>
      (Properties.get? c.properties p).map fun v => .pair p (propertyItem v)

/-- The hash input of an enumeration: its scope, its name and its entries. -/
def encodingItem (e : FieldEncoding) : HashItem :=
  .list [.text "Enum", .text (e.scopePath.getD ""), .text e.enumeration.name,
    .list (e.enumeration.entries.map fun entry =>
      .list ([.nat entry.value, .text entry.name] ++ (entry.desc.map .text).toList))]

def encodingHash (h : Hasher) (e : FieldEncoding) : Int := h.digest (encodingItem e)

/-- What a field contributes to its own shape. -/
def fieldItems (h : Hasher) (f : FieldDetail) : List HashItem :=
  .text f.access.keyword ::
    (f.encoding.map fun e => .pair "encode" (.int (h.encodingHash e))).toList

/-- What a register with these shown fields contributes to its shape. -/
def registerItems (r : RegisterDetail) (fields : List FieldDetail) : List HashItem :=
  [.flag (fields.any (·.access.readable)), .flag (fields.any (·.access.writable)),
    .nat r.accessWidth, .nat r.width]

/-- What a memory contributes to its shape. -/
def memoryItems (m : MemoryDetail) : List HashItem :=
  [.flag m.access.readable, .flag m.access.writable, .nat m.entries, .nat m.width,
    .nat m.accessWidth]

/-- What the attributes of a node with these shown children contribute to its shape. -/
def ownItems (c : Component) (children : List Node) : List HashItem :=
  let array : List HashItem := [.flag c.array.isSome]
  match c.detail with
  | .register r => registerItems r (children.filterMap (·.detail.field?)) ++ array
  | .memory m => memoryItems m ++ array
  | _ => array

/-- The hash input of a field. -/
def fieldInput (h : Hasher) (c : Component) (f : FieldDetail) : HashItem :=
  .list (h.commonItems c ++ h.fieldItems f ++ [.pair "type" (.text c.typeKey)])

/-- The elements are those of a plain field, its kind and its access. -/
def isSentinel : List HashItem → Bool
  | [.text kind, .text access] =>
    kind = "Field" && (access = "rw" || access = "r" || access = "w")
  | _ => false

/-- The hash of a field at a path.  A field is plain when there is nothing but its kind and its
access. -/
def fieldHash (h : Hasher) (path : String) (c : Component) (f : FieldDetail) :
    Except ExportFault TypeHash :=
  let items := h.commonItems c ++ h.fieldItems f
  if items.length = 2 then
    if isSentinel items then .ok .plain
    else .error (.malformedSentinel path (HashItem.list items).toJson.compact)
  else .ok (.hash (h.digest (h.fieldInput c f)))

/-- The hash input of a node by its shown children and by what these contribute. -/
def nodeInput (h : Hasher) (c : Component) (children : List Node) (contributions : List HashItem) :
    HashItem :=
  .list (h.commonItems c ++ ownItems c children ++ contributions ++
    [.pair "type" (.text c.typeKey)])

/-- The hash of a node by its shown children and by what these contribute. -/
def nodeHash (h : Hasher) (c : Component) (children : List Node) (contributions : List HashItem) :
    TypeHash :=
  .hash (h.digest (h.nodeInput c children contributions))

/-- The placed hash of a node by its type hash. -/
def placedHash (h : Hasher) (c : Component) (type : TypeHash) : Int :=
  h.digest (.list ([type.item, .text c.instName, .nat c.offset] ++
    (c.array.map fun a => .list [.nat a.stride, .list (a.dimensions.map .nat)]).toList))

/-- What a field contributes to its register: its own hash, and its position, which is not part of
that. -/
def fieldContribution (c : Component) (f : FieldDetail) (type : TypeHash) (accessor : String) :
    HashItem :=
  .list [type.item, .nat f.geometry.lsb, .nat f.geometry.msb, .nat f.geometry.low,
    .nat f.geometry.high, (f.reset.map .nat).getD (.text "none"), .flag f.hardwareWritable,
    .text c.instName, .text accessor]

/-- What a node contributes to a parent that is no register. -/
def nodeContribution (h : Hasher) (c : Component) (type : TypeHash) (accessor : String) : HashItem :=
  .list [.int (h.placedHash c type), .text accessor]

end Hasher

/-! ## Recursion -/

/-- The shown children of a node with their accessor names, in order. -/
abbrev Accessors := List (Place × String)

/-- What the computation of hashes asks about the tree. -/
structure ShapeQueries (m : Type → Type) where
  children : Place → m Accessors
  /-- The type hash of the node with this number, if it is known. -/
  known : Nat → m (Option TypeHash)
  /-- Makes the type hash of the node with this number known. -/
  remember : Nat → TypeHash → m Unit

section

variable {m : Type → Type} [Monad m] [MonadExceptOf ExportFault m]

mutual

/-- The type hash of a node, given the nodes above it. -/
def typeHash (h : Hasher) (t : RegisterTree) (q : ShapeQueries m) (above : List Node) :
    Node → m TypeHash
  | .mk id c cs => do
    let node := Node.mk id c cs
    match ← q.known id with
    | some known => pure known
    | none =>
      let computed ← match c.detail with
        | .signal => throw (.unsupportedKind (t.path ⟨above, node⟩) .signal)
        | .field f => MonadExcept.ofExcept (h.fieldHash (t.path ⟨above, node⟩) c f)
        | _ => do
          let children ← q.children ⟨above, node⟩
          let inputs ← contributions h t q (node :: above) (c.kind == .register) children cs
          pure (h.nodeHash c (children.map (·.1.node)) inputs)
      q.remember id computed
      pure computed

/-- What the shown ones among some nodes contribute to the node around them. -/
def contributions (h : Hasher) (t : RegisterTree) (q : ShapeQueries m) (above : List Node)
    (inRegister : Bool) (children : Accessors) : List Node → m (List HashItem)
  | [] => pure []
  | .mk id c cs :: rest => do
    let node := Node.mk id c cs
    match children.find? fun child => child.1.id == id with
    | none => contributions h t q above inRegister children rest
    | some (_, accessor) =>
      let item ←
        if inRegister then
          match c.detail with
          | .field f => do
            let type ← typeHash h t q above (.mk id c cs)
            pure (Hasher.fieldContribution c f type accessor)
          | _ => throw (.unsupportedKind (t.path ⟨above, node⟩) c.kind)
        else do
          let type ← typeHash h t q above (.mk id c cs)
          pure (h.nodeContribution c type accessor)
      let items ← contributions h t q above inRegister children rest
      pure (item :: items)

end

/-- The placed hash of a node. -/
def placedHash (h : Hasher) (t : RegisterTree) (q : ShapeQueries m) (p : Place) : m Int := do
  let type ← typeHash h t q p.above p.node
  pure (h.placedHash p.node.component type)

end

/-! ## Without memory -/

namespace Hiding

/-- The shown children of a node with their accessor names. -/
def accessors (h : Hiding) (t : RegisterTree) (p : Place) : Accessors :=
  let visible := h.visibleChildren t p
  visible.zip (accessorNames p.node.kind (visible.map (·.node)))

/-- The questions answered by the configuration alone, without any memory. -/
def queries (h : Hiding) (t : RegisterTree) : ShapeQueries (Except ExportFault) where
  children p := pure (h.accessors t p)
  known _ := pure none
  remember _ _ := pure ()

end Hiding

/-- The type hash of a place, by plain recursion on its tree. -/
def Place.typeHash (p : Place) (h : Hasher) (hide : Hiding) (t : RegisterTree) :
    Except ExportFault TypeHash :=
  RegisterMap.typeHash h t (hide.queries t) p.above p.node

end RegisterMap
