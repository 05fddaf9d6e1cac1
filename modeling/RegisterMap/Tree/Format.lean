import RegisterMap.Json.Parser
import RegisterMap.Tree.Place

/-!
# Descriptions as JSON

The form in which descriptions are exchanged.  A node is an object whose members are its attributes;
unknown members are ignored, whatever they hold, but no attribute may be given twice.  An attribute
that may be missing may also be null, except for the offset, the properties and the children, which
have values of their own when missing.  A structure may also be given as the array of its members in
their order, of which the last ones may be missing, and a word from a fixed list as the object with
that word as its only member and null as its value.

Arrays and objects that are read for attributes are nested at most 127 deep; what an ignored member
holds does not count.  The depth that is left is the fuel of the reader.
-/

namespace RegisterMap

namespace Description

/-- The number of open brackets at which reading stops. -/
def maxDepth : Nat := 127

/-! ## Scalars -/

def integerIn? (low high : Int) (j : Json) : Option Int :=
  j.integer?.filter fun i => low ≤ i && i ≤ high

/-- A natural number of at most so many bits. -/
def natural? (bits : Nat) (j : Json) : Option Nat := (integerIn? 0 (valueCount bits - 1) j).map Int.toNat

/-- A property value: a truth value, an integer of 64 bits or a text. -/
def propertyValue? : Json → Option PropertyValue
  | .bool b => some (.flag b)
  | .string t => t.map .text
  | j => (integerIn? (-valueCount 63) (valueCount 63 - 1) j).map .int

/-! ## Structures -/

/-- A value that may be null. -/
def nullable {α : Type} (read : Json → Option α) : Json → Option (Option α)
  | .null => some none
  | j => (read j).map some

/-- An attribute that may be missing or null. -/
def orNone {α : Type} (read : Json → Option α) : Option Json → Option (Option α)
  | none => some none
  | some j => nullable read j

/-- An attribute with a value of its own when it is missing. -/
def orElse {α : Type} (value : α) (read : Json → Option α) : Option Json → Option α
  | none => some value
  | some j => read j

/-- An array of values; the array takes one level of depth. -/
def listOf? {α : Type} (read : Nat → Json → Option α) : Nat → Json → Option (List α)
  | depth + 1, .array items => items.mapM (read depth)
  | _, _ => none

/-- The members of a structure with these names, each if it is given. -/
def members? (names : List String) : Json → Option (List (Option Json))
  | .object members =>
    if members.all (·.1.isSome) then
      names.mapM fun name =>
        match members.filter (·.1 == some name) with
        | [] => some none
        | [m] => some (some m.2)
        | _ => none
    else none
  | .array items =>
    if items.length ≤ names.length then
      some (items.map some ++ List.replicate (names.length - items.length) none)
    else none
  | _ => none

/-- A word from a fixed list: a text, or the object whose only member has the word as its name and
null as its value, which takes one level of depth. -/
def word? {α : Type} (ofWord? : String → Option α) (depth : Nat) : Json → Option α
  | .string t => t.bind ofWord?
  | .object [(name, .null)] => if depth = 0 then none else name.bind ofWord?
  | _ => none

def arrayShape? : Nat → Json → Option ArrayShape
  | 0, _ => none
  | depth + 1, j => do
    let [dimensions, stride] ← members? ["dimensions", "stride"] j | none
    pure ⟨← listOf? (fun _ => natural? 64) depth (← dimensions), ← natural? 64 (← stride)⟩

def enumEntry? : Nat → Json → Option EnumEntry
  | 0, _ => none
  | _ + 1, j => do
    let [value, name, desc] ← members? ["value", "name", "desc"] j | none
    pure ⟨← natural? 64 (← value), ← (← name).text?, ← orNone Json.text? desc⟩

def encoding? : Nat → Json → Option FieldEncoding
  | 0, _ => none
  | depth + 1, j => do
    let [name, scopePath, entries] ← members? ["name", "scope_path", "entries"] j | none
    pure ⟨⟨← (← name).text?, ← listOf? enumEntry? depth (← entries)⟩, ← orNone Json.text? scopePath⟩

/-- The properties of a node; the last one of a name counts. -/
def properties? : Nat → Json → Option Properties
  | _ + 1, .object members =>
    Properties.ofList <$> members.mapM fun (name, v) => do pure (← name, ← propertyValue? v)
  | _, _ => none

/-- The names of the attributes in their order. -/
def attributeNames : List String :=
  ["kind", "inst_name", "type_name", "scope_path", "name", "desc", "address_offset", "array",
    "properties", "children", "lsb", "msb", "sw", "hw_writable", "reset", "encode", "regwidth",
    "accesswidth", "mementries", "memwidth"]

/-- The attributes that the members of a node give, and the member that holds its children. -/
def attributes? (depth : Nat) : List (Option Json) → Option (Attributes × Option Json)
  | [kind, instName, typeName, scopePath, name, desc, offset, array, properties, children, lsb, msb,
      access, hardwareWritable, reset, encoding, registerWidth, accessWidth, memoryEntries,
      memoryWidth] => do
    let attributes : Attributes := {
      kind := ← word? NodeKind.ofKeyword? depth (← kind)
      instName := ← (← instName).text?
      typeName := ← orNone Json.text? typeName
      scopePath := ← orNone Json.text? scopePath
      name := ← orNone Json.text? name
      desc := ← orNone Json.text? desc
      offset := ← orElse 0 (natural? 64) offset
      array := ← orNone (arrayShape? depth) array
      properties := ← orElse [] (properties? depth) properties
      lsb := ← orNone (natural? 32) lsb
      msb := ← orNone (natural? 32) msb
      access := ← orNone (word? Access.ofKeyword? depth) access
      hardwareWritable := ← orNone Json.bool? hardwareWritable
      reset := ← orNone (natural? 64) reset
      encoding := ← orNone (encoding? depth) encoding
      registerWidth := ← orNone (natural? 32) registerWidth
      accessWidth := ← orNone (natural? 32) accessWidth
      memoryEntries := ← orNone (natural? 64) memoryEntries
      memoryWidth := ← orNone (natural? 32) memoryWidth }
    pure (attributes, children)
  | _ => none

/-- A description, with this depth left. -/
def ofJson? : Nat → Json → Option Description
  | 0, _ => none
  | depth + 1, j => do
    let (attributes, children) ← attributes? depth (← members? attributeNames j)
    match children with
    | none => pure (.mk attributes [])
    | some (.array items) =>
      match depth with
      | 0 => none
      | depth + 1 => pure (.mk attributes (← items.mapM (ofJson? depth)))
    | some _ => none

end Description

namespace RegisterTree

/-- The tree that a JSON value describes. -/
def ofJson (j : Json) : Except TreeFault RegisterTree :=
  match Description.ofJson? Description.maxDepth j with
  | some d => ofDescription d
  | none => .error .malformed

/-- The tree that a text describes. -/
def ofText (text : String) : Except TreeFault RegisterTree :=
  match Json.parse text with
  | some j => ofJson j
  | none => .error .malformed

end RegisterTree

end RegisterMap
