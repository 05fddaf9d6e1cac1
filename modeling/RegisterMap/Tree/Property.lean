/-!
# Properties

Built-in and user-defined properties of a node: a name and a truth value, integer or text.  The
properties of a node are kept in the order of their names, each name once.
-/

namespace RegisterMap

/-- The value of a property. -/
inductive PropertyValue where
  | flag (value : Bool)
  | int (value : Int)
  | text (value : String)
deriving DecidableEq, Repr, Inhabited

namespace PropertyValue

/-- The truth value, if it is one. -/
def flag? : PropertyValue → Option Bool
  | flag b => some b
  | _ => none

/-- The text, if it is one. -/
def text? : PropertyValue → Option String
  | text s => some s
  | _ => none

def display : PropertyValue → String
  | flag b => if b then "true" else "false"
  | int i => toString i
  | text s => s

end PropertyValue

/-- The properties of a node in the order of their names. -/
abbrev Properties := List (String × PropertyValue)

namespace Properties

def get? (ps : Properties) (name : String) : Option PropertyValue := ps.lookup name

/-- Sets a property, in the place of an older value if there is one. -/
def insert (name : String) (value : PropertyValue) : Properties → Properties
  | [] => [(name, value)]
  | (n, v) :: rest =>
    if n = name then (name, value) :: rest
    else if name < n then (name, value) :: (n, v) :: rest
    else (n, v) :: insert name value rest

/-- The properties of a list, of which the last one of a name counts. -/
def ofList (ps : List (String × PropertyValue)) : Properties :=
  ps.foldl (fun acc p => insert p.1 p.2 acc) []

end Properties

end RegisterMap
