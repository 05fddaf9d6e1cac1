import RegisterMap.Source.Rendering

/-!
# Reset values

The values with which a simulator has to begin: every physical word of every register element whose
value after reset is not zero.  The walk goes through the types of the plan, not through the tree:
what is in a child is what is in the node of its type's record, which may lie elsewhere.  Shared
types have equal subtrees, so no type is met inside itself, and the number of types is fuel enough.
-/

namespace RegisterMap

namespace Rendering

open ExportFault (ofOverflow)

variable (x : Rendering)

/-- The physical words of a register after reset that are not zero, at an address. -/
def registerResets (p : Place) (address : Nat) : Except Overflow (List (Nat × Nat)) :=
  match p.node.detail with
  | .register r =>
    let value := (x.fieldsOf p).foldl (fun acc f => acc ||| Node.resetBits f.2.2) 0
    let words := (splitWords value r.width r.accessWidth).zipIdx.filter (·.1 != 0)
    words.mapM fun (word, i) => do
      pure (← elementAddress address i (entryBytes r.accessWidth), word)
  | _ => pure []

/-- The number of elements of a node and their distance. -/
def elements (c : Component) : Except Overflow (Nat × Nat) :=
  match c.array with
  | some a => a.length.map (·, a.stride)
  | none => pure (1, 0)

/-- The words of all registers in one element of a child of some kind, at the place of its type;
`deeper` is the walk through the types of its children. -/
def elementResets (deeper : Place → Nat → Except ExportFault (List (Nat × Nat))) (kind : NodeKind)
    (type : Place) (address : Nat) : Except ExportFault (List (Nat × Nat)) :=
  match kind with
  | .register => ofOverflow (x.registerResets type address)
  | .registerFile | .addressMap => deeper type address
  | _ => pure []

/-- The words of all registers in all elements of a child, whose parent begins at an address. -/
def childResets (deeper : Place → Nat → Except ExportFault (List (Nat × Nat))) (base : Nat)
    (child : Place) : Except ExportFault (List (Nat × Nat)) := do
  let c := child.node.component
  let (count, stride) ← ofOverflow (elements c)
  let type ← x.typeOf child
  let ofElements ← (List.range count).mapM fun i => do
    let first ← ofOverflow (checkedSum base c.offset)
    let address ← ofOverflow (elementAddress first i stride)
    x.elementResets deeper c.kind type.place address
  pure ofElements.flatten

/-- The words of all registers in the type of a place, which begins at an address. -/
def resetsIn : (fuel : Nat) → Place → (address : Nat) → Except ExportFault (List (Nat × Nat))
  | 0, _, _ => pure []
  | fuel + 1, p, base => do
    let words ← (x.childrenOf p).mapM fun (child, _) => x.childResets (resetsIn fuel) base child
    pure words.flatten

/-- The words of all registers outside memories that are not zero after reset, by address. -/
def resetValues : Except ExportFault (List (Nat × Nat)) := do
  let top ← x.topType
  let base ← ofOverflow x.tree.top.address
  x.resetsIn (x.plan.records.length + 1) top.place base

end Rendering

end RegisterMap
