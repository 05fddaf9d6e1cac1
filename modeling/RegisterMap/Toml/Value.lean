/-!
# TOML documents

The values of a TOML document, and the rules by which its lines build tables.  A table remembers how
it came about, since that decides how it may grow: a table with a header of its own is complete, one
that only lies on the way to a header may still get one, and one made by a dotted key grows by
dotted keys alone.
-/

namespace RegisterMap

/-- How a table came about. -/
inductive TableOrigin where
  | inline
  | header
  /-- It lies on the way to a table with a header. -/
  | implied
  /-- It lies on the way of a dotted key. -/
  | dotted
deriving DecidableEq, Repr

/-- A value of a TOML document. -/
inductive Toml where
  | text (s : String)
  | flag (b : Bool)
  | scalar
  | array (items : List Toml)
  | table (origin : TableOrigin) (members : List (String × Toml))
  /-- An array of tables with headers, each given by its members. -/
  | tables (elements : List (List (String × Toml)))
deriving Repr, Inhabited

namespace Toml

abbrev Members := List (String × Toml)

/-- Replaces the value of a member, or adds the member. -/
def set (members : Members) (key : String) (value : Toml) : Members :=
  match members with
  | [] => [(key, value)]
  | (k, v) :: rest => if k = key then (k, value) :: rest else (k, v) :: set rest key value

/-- Adds a member that is not there yet. -/
def add (members : Members) (key : String) (value : Toml) : Option Members :=
  if (members.lookup key).isSome then none else some (set members key value)

/-- Changes the last one of a list, if there is one. -/
def changeLast {α : Type} (f : α → Option α) : List α → Option (List α)
  | [] => none
  | [a] => (f a).map fun b => [b]
  | a :: rest => (changeLast f rest).map fun bs => a :: bs

/-! ## Dotted keys -/

/-- Adds a member by a dotted key: `path` are the parts before the last one.  The tables on the way
may not have headers of their own, and the last one of them has to be made by dotted keys. -/
def addDotted (members : Members) (path : List String) (key : String) (value : Toml) :
    Option Members :=
  match path with
  | [] => add members key value
  | part :: rest =>
    match members.lookup part with
    | none => (addDotted [] rest key value).map fun inner => set members part (.table .dotted inner)
    | some (.table .dotted inner) =>
      (addDotted inner rest key value).map fun inner => set members part (.table .dotted inner)
    | some (.table .implied inner) =>
      if rest.isEmpty then none
      else (addDotted inner rest key value).map fun inner => set members part (.table .implied inner)
    | some (.tables elements) =>
      if rest.isEmpty then none
      else
        (changeLast (fun inner => addDotted inner rest key value) elements).map fun elements =>
          set members part (.tables elements)
    | some _ => none

/-- Adds a member of a table in braces by a dotted key, through tables made by dotted keys alone. -/
def addInline (members : Members) (path : List String) (key : String) (value : Toml) :
    Option Members :=
  match path with
  | [] => add members key value
  | part :: rest =>
    match members.lookup part with
    | none => (addInline [] rest key value).map fun inner => set members part (.table .dotted inner)
    | some (.table .dotted inner) =>
      (addInline inner rest key value).map fun inner => set members part (.table .dotted inner)
    | some _ => none

/-! ## Headers -/

/-- Changes the members of the table at a path, going to the last element of arrays of tables, and
through new tables where there are none. -/
def changeAt (f : Members → Option Members) (members : Members) : List String → Option Members
  | [] => f members
  | part :: rest =>
    match members.lookup part with
    | none => (changeAt f [] rest).map fun inner => set members part (.table .implied inner)
    | some (.table .inline _) => none
    | some (.table origin inner) =>
      (changeAt f inner rest).map fun inner => set members part (.table origin inner)
    | some (.tables elements) =>
      (changeLast (fun inner => changeAt f inner rest) elements).map fun elements =>
        set members part (.tables elements)
    | some _ => none

/-- Begins the table with a header: it may lie on the way to others, but have no header yet. -/
def beginTable (key : String) (members : Members) : Option Members :=
  match members.lookup key with
  | none => some (set members key (.table .header []))
  | some (.table .implied inner) => some (set members key (.table .header inner))
  | some _ => none

/-- Begins the next element of an array of tables. -/
def beginElement (key : String) (members : Members) : Option Members :=
  match members.lookup key with
  | none => some (set members key (.tables [[]]))
  | some (.tables elements) => some (set members key (.tables (elements ++ [[]])))
  | some _ => none

end Toml

end RegisterMap
