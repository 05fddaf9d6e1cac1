import RegisterMap.Export.Config
import RegisterMap.Pattern.Parser
import RegisterMap.Pattern.Search
import RegisterMap.Tree.Place

/-!
# Hidden nodes

A node is hidden by its property or by its path, signals are always hidden, and so is a register of
which every field is.  A caller may add a predicate of its own, which may keep a state; a predicate
that changes its answer about a node is found out when the node is asked about again.
-/

namespace RegisterMap

/-- Which nodes are hidden, as far as the configuration says. -/
structure Hiding where
  /-- Nodes with the hiding property are hidden. -/
  honorProperty : Bool
  /-- Nodes are hidden whose path fits one of these patterns. -/
  patterns : List Pattern
deriving Repr

namespace Hiding

/-- The pattern that a whole path has to fit. -/
def wholePath? (pattern : String) : Option Pattern :=
  (Pattern.parse? ("^(?:" ++ pattern ++ ")$")).map Pattern.simplified

/-- What a configuration hides; a text that is no pattern is refused. -/
def ofConfig (c : HideConfig) : Except ExportFault Hiding := do
  let patterns ← c.patterns.mapM fun p =>
    match wholePath? p with
    | some pattern => .ok pattern
    | none => .error (.invalidPattern p)
  pure ⟨c.honorProperty, patterns⟩

/-- The node says of itself that it is to be hidden. -/
def marked (n : Node) : Bool := ((n.property? hideProperty).bind PropertyValue.flag?).getD false

/-- The node itself is hidden by its property or its path. -/
def hidesNode (h : Hiding) (t : RegisterTree) (p : Place) : Bool :=
  (h.honorProperty && marked p.node) ||
    (!h.patterns.isEmpty && h.patterns.any (·.occursIn (t.path p).toList))

/-- The node stays out of the model. -/
def isHidden (h : Hiding) (t : RegisterTree) (p : Place) : Bool :=
  p.node.kind == .signal || h.hidesNode t p ||
    (p.node.kind == .register &&
      (p.children.filter fun c => c.node.kind == .field).all (h.hidesNode t))

/-- The children that appear in the model, in order. -/
def visibleChildren (h : Hiding) (t : RegisterTree) (p : Place) : List Place :=
  p.children.filter fun c => !h.isHidden t c

end Hiding

/-- A predicate of the caller on nodes, with states `σ`. -/
abbrev HidePredicate (σ : Type) := Place → σ → Bool × σ

def HidePredicate.nothing {σ : Type} : HidePredicate σ := fun _ s => (false, s)

/-! ## Questions about nodes -/

/-- What is known after some questions. -/
structure HideState (σ : Type) where
  predicate : σ
  /-- The answers so far, by the number of the node. -/
  answers : List (Nat × Bool)

/-- A computation that asks about nodes. -/
abbrev Asking (σ : Type) := ExceptT ExportFault (StateM σ)

/-- Asks whether a node itself is hidden.  The predicate is consulted after the property and the
patterns, each time anew, and has to stay with its answer. -/
def askNode {σ : Type} (h : Hiding) (predicate : HidePredicate σ) (t : RegisterTree) (p : Place) :
    Asking (HideState σ) Bool := do
  let s ← get
  let (hidden, state) :=
    if h.hidesNode t p then (true, s.predicate) else predicate p s.predicate
  set { s with predicate := state }
  match s.answers.lookup p.id with
  | some previous =>
    if previous = hidden then pure hidden else throw (.inconsistentHiding (t.path p))
  | none =>
    modify fun s => { s with answers := (p.id, hidden) :: s.answers }
    pure hidden

/-- Asks about every node of a list; the answer is that all of them are hidden. -/
def askAll {σ : Type} (h : Hiding) (predicate : HidePredicate σ) (t : RegisterTree) :
    List Place → Asking (HideState σ) Bool
  | [] => pure true
  | p :: rest => do
    let hidden ← askNode h predicate t p
    let others ← askAll h predicate t rest
    pure (hidden && others)

/-- Asks whether a node stays out of the model. -/
def askHidden {σ : Type} (h : Hiding) (predicate : HidePredicate σ) (t : RegisterTree) (p : Place) :
    Asking (HideState σ) Bool := do
  if p.node.kind = .signal then pure true
  else if ← askNode h predicate t p then pure true
  else if p.node.kind = .register then
    askAll h predicate t (p.children.filter fun c => c.node.kind == .field)
  else pure false

/-- Asks which of some nodes appear in the model. -/
def askVisible {σ : Type} (h : Hiding) (predicate : HidePredicate σ) (t : RegisterTree) :
    List Place → Asking (HideState σ) (List Place)
  | [] => pure []
  | p :: rest => do
    let hidden ← askHidden h predicate t p
    let visible ← askVisible h predicate t rest
    pure (if hidden then visible else p :: visible)

end RegisterMap
