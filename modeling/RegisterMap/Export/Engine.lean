import RegisterMap.Export.Shape

/-!
# The memory of an export

An export asks about the same nodes again and again.  It keeps the type hash of every node that it
has met, and the accessor names of every node's shown children; but whether a child is hidden is
asked anew each time, so that a predicate that changes its mind is caught.
-/

namespace RegisterMap

/-- An export of a tree. -/
structure Export (σ : Type) where
  tree : RegisterTree
  hide : Hiding
  predicate : HidePredicate σ
  hasher : Hasher

/-- What an export remembers. -/
structure ExportMemory (σ : Type) where
  hide : HideState σ
  /-- The type hashes by the number of the node. -/
  types : List (Nat × TypeHash)
  /-- The shown children by the number of the node. -/
  accessors : List (Nat × Accessors)

/-- The memory of an export that has not begun. -/
def ExportMemory.empty {σ : Type} (s : σ) : ExportMemory σ := ⟨⟨s, []⟩, [], []⟩

abbrev Exporting (σ : Type) := Asking (ExportMemory σ)

namespace Export

variable {σ : Type}

/-- Asks with the answers of the export. -/
def asking {α : Type} (x : Asking (HideState σ) α) : Exporting σ α := ExceptT.mk do
  let memory ← get
  let (result, hide) := x.run memory.hide
  set { memory with hide }
  pure result

/-- Asks whether a node is hidden. -/
def isHidden (e : Export σ) (p : Place) : Exporting σ Bool :=
  asking (askHidden e.hide e.predicate e.tree p)

/-- The shown children of a node with their accessor names. -/
def children (e : Export σ) (p : Place) : Exporting σ Accessors := do
  match (← get).accessors.lookup p.id with
  | some known =>
    let _ ← asking (askVisible e.hide e.predicate e.tree (known.map (·.1)))
    pure known
  | none =>
    let visible ← asking (askVisible e.hide e.predicate e.tree p.children)
    let accessors := visible.zip (accessorNames p.node.kind (visible.map (·.node)))
    modify fun memory => { memory with accessors := (p.id, accessors) :: memory.accessors }
    pure accessors

/-- The questions about the tree answered from the memory. -/
def queries (e : Export σ) : ShapeQueries (Exporting σ) where
  children := e.children
  known id := do pure ((← get).types.lookup id)
  remember id type := modify fun memory => { memory with types := (id, type) :: memory.types }

/-- The type hash of a node. -/
def typeHash (e : Export σ) (p : Place) : Exporting σ TypeHash :=
  RegisterMap.typeHash e.hasher e.tree e.queries p.above p.node

/-- The placed hash of a node. -/
def placedHash (e : Export σ) (p : Place) : Exporting σ Int :=
  RegisterMap.placedHash e.hasher e.tree e.queries p

end Export

end RegisterMap
