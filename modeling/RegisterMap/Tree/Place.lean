import RegisterMap.Tree.Loading

/-!
# Places in a tree

A place is a node together with the nodes above it, so that its path, its address and the address
map around it can be told.  Paths begin at the export root, an address map that may be chosen;
addresses always count from the root of the whole tree, and take element 0 of every array.  The
address maps in the export root are met on a walk with a stack.
-/

namespace RegisterMap

/-- A node with the nodes above it, nearest first. -/
structure Place where
  /-- The nodes above, nearest first. -/
  above : List Node
  node : Node
deriving Inhabited

namespace Place

def id (p : Place) : Nat := p.node.id

/-- The places of the children, in order. -/
def children (p : Place) : List Place := p.node.children.map fun n => ⟨p.node :: p.above, n⟩

def parent? (p : Place) : Option Place :=
  match p.above with
  | [] => none
  | n :: rest => some ⟨rest, n⟩

/-- The address of element 0 in bytes; a field has the address of its register. -/
def address (p : Place) : Except Overflow Nat :=
  (p.node :: p.above).foldlM (fun acc n => checkedSum acc n.component.offset) 0

/-- The names on the way up from a node to the one with a number, or to the root. -/
def namesUpTo (id : Nat) : List Node → List String
  | [] => []
  | n :: rest => if n.id = id then [n.instName] else n.instName :: namesUpTo id rest

/-- The first address map on the way up, given by the nodes on that way; the root, if there is
none. -/
def enclosing (node : Node) : List Node → Place
  | [] => ⟨[], node⟩
  | n :: rest => if node.kind = .addressMap then ⟨n :: rest, node⟩ else enclosing n rest

/-- The nearest address map that contains the node, or that it is. -/
def enclosingAddressMap (p : Place) : Place := enclosing p.node p.above

/-- The place that is reached from a place by going down to the first child of each name. -/
def descend (p : Place) : List String → Option Place
  | [] => some p
  | name :: rest =>
    match p.children.find? fun c => c.node.instName == name with
    | some c => descend c rest
    | none => none

mutual

/-- The places in a tree, parents before children. -/
def preorder (above : List Node) : Node → List Place
  | n@(.mk _ _ cs) => ⟨above, n⟩ :: preorders (n :: above) cs

def preorders (above : List Node) : List Node → List Place
  | [] => []
  | n :: rest => preorder above n ++ preorders above rest

end

end Place

/-! ## Walking over address maps -/

/-- A walk over address maps under way. -/
structure MapWalk where
  /-- The address maps met so far, in order. -/
  met : Array Place
  /-- The address maps found and not yet met, the next one first. -/
  stack : List Place

namespace MapWalk

/-- One round: the next address map is met, and those among its children are put on the stack, the
last one first. -/
def round? (w : MapWalk) : Option MapWalk :=
  match w.stack with
  | [] => none
  | p :: rest =>
    let maps := p.children.reverse.filter fun c => c.node.kind = .addressMap
    some ⟨w.met.push p, maps.foldl (fun stack c => c :: stack) rest⟩

/-- The number of nodes that the walk can still reach. -/
def left (w : MapWalk) : Nat := Node.sizes (w.stack.map Place.node)

/-- A round is made of an address map, and finds the address maps among its children in order. -/
theorem round?_eq_some {w next : MapWalk} (h : w.round? = some next) :
    ∃ p rest, w.stack = p :: rest ∧ next.met = w.met.push p ∧
      next.stack = (p.children.filter fun c => c.node.kind = .addressMap) ++ rest := by
  obtain ⟨met, _ | ⟨p, rest⟩⟩ := w
  · cases h
  · refine ⟨p, rest, rfl, ?_⟩
    cases h
    refine ⟨rfl, ?_⟩
    show List.foldl _ rest _ = _
    rw [List.foldl_flip_cons_eq_append', List.filter_reverse, List.reverse_reverse]

/-- Nodes that are left out are out of reach. -/
theorem sizes_filter_le (keep : Place → Bool) (found rest : List Place) :
    Node.sizes ((found.filter keep ++ rest).map Place.node) ≤
      Node.sizes (found.map Place.node) + Node.sizes (rest.map Place.node) := by
  induction found with
  | nil => simp [Node.sizes]
  | cons p found ih =>
    simp only [List.filter_cons, List.map_cons, Node.sizes]
    split
    · simp only [List.cons_append, List.map_cons, Node.sizes]
      omega
    · omega

/-- The address map that a round is made of is out of reach after it. -/
theorem left_lt {w next : MapWalk} (h : w.round? = some next) : next.left < w.left := by
  obtain ⟨p, rest, hstack, -, hnext⟩ := round?_eq_some h
  have hfound := sizes_filter_le (fun c => c.node.kind = .addressMap) p.children rest
  have hchildren : p.children.map Place.node = p.node.children := by
    rw [Place.children, List.map_map]
    exact List.map_id _
  have hsize : p.node.size = Node.sizes p.node.children + 1 := by
    cases p.node
    rw [Node.size, Node.children]
  rw [hchildren] at hfound
  rw [left, left, hnext, hstack, List.map_cons, Node.sizes, hsize]
  omega

/-- Goes on until nothing is left on the stack. -/
def run (w : MapWalk) : Array Place :=
  match _h : w.round? with
  | none => w.met
  | some next => next.run
termination_by w.left
decreasing_by exact left_lt _h

end MapWalk

/-- A register tree with the address map that is exported. -/
structure RegisterTree where
  root : Node
  top : Place

namespace RegisterTree

/-- The tree of a description; its root is the export root. -/
def ofDescription (d : Description) : Except TreeFault RegisterTree :=
  d.toNode.map fun root => ⟨root, ⟨[], root⟩⟩

def places (t : RegisterTree) : List Place := Place.preorder [] t.root

/-- The path of a place from the export root, or from the root if it does not lie below that. -/
def path (t : RegisterTree) (p : Place) : String :=
  String.intercalate "." (Place.namesUpTo t.top.id (p.node :: p.above)).reverse

/-- The place at a path that begins with the name of the export root or of the root. -/
def find? (t : RegisterTree) (path : String) : Option Place :=
  match path.splitOn "." with
  | [] => none
  | first :: rest =>
    match [t.top, ⟨[], t.root⟩].find? fun p => p.node.instName == first with
    | some p => p.descend rest
    | none => none

/-- Makes the address map at a path the export root. -/
def selectTop (t : RegisterTree) (path : String) : Except TreeFault RegisterTree :=
  match t.find? path with
  | none => .error (.notFound path)
  | some p =>
    if p.node.kind = .addressMap then .ok { t with top := p }
    else .error (.rootNotAddressMap p.node.kind)

/-- The address maps from the export root on, parents before children. -/
def addressMaps (t : RegisterTree) : List Place := (MapWalk.run ⟨#[], [t.top]⟩).toList

end RegisterTree

end RegisterMap
