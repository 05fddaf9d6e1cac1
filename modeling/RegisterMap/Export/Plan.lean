import RegisterMap.Export.Engine

/-!
# The plan of an export

Which nodes get a type of their own.  The tree is walked from the export root, parents before
children.  A node whose type hash was met before shares that type, and its subtree is not walked
again.  The types are listed last one first, so a type comes after those that are first met in it.
An array is one node: all its elements share one type.  Like the computation of hashes, the walk is
written over the questions that it asks about the tree.
-/

namespace RegisterMap

/-- A type of its own. -/
structure TypeRecord where
  /-- The first node met with this hash; what is in it tells what the type is. -/
  place : Place
  hash : Int
  /-- The name, made of scope, definition and hash. -/
  name : String
  identifier : String

/-- An enumeration of its own. -/
structure EnumRecord where
  hash : Int
  /-- The name, made of scope, definition and hash. -/
  name : String
  identifier : String
  encoding : FieldEncoding
deriving DecidableEq, Repr

/-- All that the generation of code needs to know about an export. -/
structure Plan where
  /-- The types, each after those that are first met in it. -/
  records : List TypeRecord := []
  /-- The hash of every node met, by its number; none for plain fields. -/
  typeOf : List (Nat × Option Int) := []
  /-- The shown children of every node with a record, by its number. -/
  children : List (Nat × Accessors) := []
  /-- The enumerations in the order in which they were met. -/
  enums : List EnumRecord := []
  /-- The hash of the enumeration of every field met that has one, by the number of the field. -/
  enumOf : List (Nat × Int) := []

namespace Plan

def record? (p : Plan) (hash : Int) : Option TypeRecord := p.records.find? (·.hash == hash)

/-- The type of the node with a number, if it has one of its own. -/
def typeOf? (p : Plan) (id : Nat) : Option TypeRecord := do
  let hash ← (p.typeOf.lookup id).bind fun h => h
  p.record? hash

/-- The node with a number is a plain field. -/
def isPlain (p : Plan) (id : Nat) : Bool := p.typeOf.lookup id == some none

/-- The shown children of the node of a record, with their accessor names. -/
def childrenOf (p : Plan) (id : Nat) : Accessors := (p.children.lookup id).getD []

/-- The enumeration of the field with a number. -/
def enumOf? (p : Plan) (id : Nat) : Option EnumRecord := do
  let hash ← p.enumOf.lookup id
  p.enums.find? (·.hash == hash)

end Plan

/-- What is known on the walk: the plan so far and the identifiers in use. -/
structure Walk where
  plan : Plan := {}
  identifiers : Identifiers := []

abbrev Walking (m : Type → Type) := StateT Walk m

namespace Walk

variable {m : Type → Type} [Monad m] [MonadExceptOf ExportFault m]

def change (f : Plan → Plan) : Walking m Unit := modify fun w => { w with plan := f w.plan }

def register (name : String) : Walking m String := do
  match (← get).identifiers.register name with
  | .error e => throw e
  | .ok (identifier, identifiers) =>
    modify fun w => { w with identifiers }
    pure identifier

/-- Notes the enumeration of a field.  Without a scope of its own it has that of the field. -/
def addEnum (h : Hasher) (field : Nat) (scope : Option String) (encoding : FieldEncoding) :
    Walking m Unit := do
  let hash := h.encodingHash encoding
  change fun p => { p with enumOf := (field, hash) :: p.enumOf }
  unless (← get).plan.enums.any (·.hash == hash) do
    let name := className (encoding.scopePath <|> scope) encoding.enumeration.name hash
    let identifier ← register name
    change fun p => { p with enums := p.enums ++ [⟨hash, name, identifier, encoding⟩] }

/-- Notes the type of a node; the answer is whether what is in the node has to be walked. -/
def addType (h : Hasher) (t : RegisterTree) (p : Place) (hash : Int) : Walking m Bool := do
  let c := p.node.component
  let name := className c.scopePath c.baseTypeName hash
  change fun plan => { plan with typeOf := (p.id, some hash) :: plan.typeOf }
  if let some encoding := c.detail.field?.bind (·.encoding) then
    addEnum h p.id c.scopePath encoding
  match (← get).plan.record? hash with
  | some existing =>
    if existing.name = name then pure false
    else throw (.nameMismatch hash (t.path p) existing.name name)
  | none =>
    let identifier ← register name
    change fun plan => { plan with records := ⟨p, hash, name, identifier⟩ :: plan.records }
    pure true

mutual

/-- Walks a node, given the nodes above it. -/
def visit (h : Hasher) (t : RegisterTree) (q : ShapeQueries m) (above : List Node) :
    Node → Walking m Unit
  | .mk id c cs => do
    let place : Place := ⟨above, .mk id c cs⟩
    match ← (typeHash h t q above (.mk id c cs) : m TypeHash) with
    | .plain => change fun p => { p with typeOf := (id, none) :: p.typeOf }
    | .hash hash =>
      if ← addType h t place hash then
        let children ← q.children place
        change fun p => { p with children := (id, children) :: p.children }
        visitShown h t q (.mk id c cs :: above) children cs

/-- Walks the shown ones among some nodes. -/
def visitShown (h : Hasher) (t : RegisterTree) (q : ShapeQueries m) (above : List Node)
    (children : Accessors) : List Node → Walking m Unit
  | [] => pure ()
  | .mk id c cs :: rest => do
    if children.any fun child => child.1.id == id then visit h t q above (.mk id c cs)
    visitShown h t q above children rest

end

/-- Walks the tree from the export root on; the answer is the plan. -/
def planned (h : Hasher) (t : RegisterTree) (q : ShapeQueries m) : m Plan := do
  let (_, walk) ← (visit h t q t.top.above t.top.node).run {}
  pure walk.plan

end Walk

namespace Export

variable {σ : Type}

/-- The plan of an export.  The export root itself may not be hidden. -/
def plan (e : Export σ) : Exporting σ Plan := do
  let top := e.tree.top
  if ← e.isHidden top then throw (.topHidden (e.tree.path top))
  Walk.planned e.hasher e.tree e.queries

end Export

end RegisterMap
