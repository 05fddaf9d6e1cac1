import RegisterMap.Export.Fault
import RegisterMap.Export.Identifier
import RegisterMap.Tree.Place

/-!
# Names in generated code

A type name holds the hash of the shape that it describes, so equal shapes have equal names and a
name fixes its shape.  Accessor names come from instance names, and are kept clear of one another
and of what every generated type of the kind already has.
-/

namespace RegisterMap

/-! ## Accessors -/

/-- The version of the lists of reserved names; a change of the lists renames accessors in code that
was generated before. -/
def reservedNamesVersion : Nat := 1

/-- The names that a generated type of a kind keeps for itself. -/
def NodeKind.reservedNames : NodeKind → List String
  | addressMap | registerFile => ["new", "name", "address"]
  | register =>
    ["new", "layout", "register", "read", "write", "read_fields", "write_fields", "with_cached",
      "cached", "from_register"]
  | memory =>
    ["new", "mem", "memory", "read", "write", "read_entry", "write_entry", "with_cached", "cached",
      "entries"]
  | field | signal => []

/-- Appends underscores to a name until it is not taken, at most so many. -/
def appendUnderscores (taken : List String) : Nat → String → String
  | 0, name => name
  | fuel + 1, name =>
    if taken.contains name then appendUnderscores taken fuel (name ++ "_") else name

/-- A name with the fewest underscores after it that is not taken.  Names of different lengths
differ, so one more underscore than there are names taken is never needed. -/
def freshName (taken : List String) (name : String) : String :=
  appendUnderscores taken taken.length name

/-- Names made fresh one after the other. -/
def freshNames (taken : List String) : List String → List String
  | [] => []
  | name :: rest =>
    let fresh := freshName taken name
    fresh :: freshNames (fresh :: taken) rest

/-- The property that replaces the instance name in accessor names. -/
def accessorProperty : String := "ral_inst_name"

/-- The name that an accessor of a node is made from. -/
def Node.accessorBase (n : Node) : String :=
  ((n.property? accessorProperty).bind PropertyValue.text?).getD n.instName

/-- The accessor names of the shown children of a node of a kind, in order. -/
def accessorNames (parent : NodeKind) (children : List Node) : List String :=
  freshNames parent.reservedNames (children.map fun n => Identifier.snakeCase n.accessorBase)

/-! ## Types -/

/-- A hash as part of a name: hexadecimal digits, marked if it is negative. -/
def hashDigits (hash : Int) : String :=
  let digits := String.ofList (Text.hexDigits hash.natAbs)
  if hash < 0 then "neg_" ++ digits else digits

/-- A scope as part of a name: its levels separated by underscores. -/
def flattenScope : List Char → List Char
  | ':' :: ':' :: rest => '_' :: flattenScope rest
  | '.' :: rest => '_' :: flattenScope rest
  | c :: rest => c :: flattenScope rest
  | [] => []

/-- The name of a generated type: the scope, the name and the hash of the definition. -/
def className (scope : Option String) (typeName : String) (hash : Int) : String :=
  let name := typeName ++ "_" ++ hashDigits hash
  match scope with
  | none | some "" => name
  | some s => String.ofList (flattenScope s.toList) ++ "_" ++ name

/-- The identifiers that are in use, each with the name that it was made from. -/
abbrev Identifiers := List (String × String)

/-- The identifier of a type name; a different name with the same identifier is refused. -/
def Identifiers.register (ids : Identifiers) (name : String) : Except ExportFault (String × Identifiers) :=
  let identifier := Identifier.camelCase name
  match ids.lookup identifier with
  | none => .ok (identifier, (identifier, name) :: ids)
  | some first =>
    if first = name then .ok (identifier, ids) else .error (.identifierCollision identifier first name)

/-! ## Enumerations -/

/-- The identifiers of members, given by their identifiers and values; `taken` lists those that are
in use.  A member whose identifier is in use gets its value as a distinction. -/
def distinctVariants (taken : List String) : List (String × Nat) → List String
  | [] => []
  | (identifier, value) :: rest =>
    let variant := if taken.contains identifier then identifier ++ "V" ++ toString value else identifier
    variant :: distinctVariants (variant :: taken) rest

/-- The identifiers of the members of an enumeration, in order. -/
def Enumeration.variants (e : Enumeration) : List String :=
  distinctVariants [] (e.entries.map fun entry => (Identifier.camelCase entry.name, entry.value))

end RegisterMap
