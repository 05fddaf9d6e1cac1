import RegisterMap.Source.Package
import RegisterMap.Tree.Report

/-!
# Exports as JSON

How configurations, plans and packages are reported.  Values that depend on the hash are left out
when the hash is good for one run only: a type is then told by the path of the node of its record,
and an enumeration by its name.
-/

namespace RegisterMap

namespace Json

/-- A hash: the decimal digits of the signed number. -/
def ofHash (hash : Int) : Json := ofString (toString hash)

def ofTypeHash : TypeHash → Json
  | .plain => ofString "sentinel"
  | .hash value => ofHash value

/-- The hash input that a value describes. -/
def toHashItem? : Json → Option HashItem
  | .string t => t.map .text
  | .bool b => some (.flag b)
  | .array items => .list <$> items.mapM toHashItem?
  | j => j.integer?.map .int

/-- The shown children of a node: path and accessor of each. -/
def ofAccessors (t : RegisterTree) (children : Accessors) : Json :=
  array (children.map fun c => array [ofString (t.path c.1), ofString c.2])

def ofConfig (c : ExportConfig) : Json :=
  let runtime := match c.runtime with
    | .path directory => ("path", directory)
    | .version requirement => ("version", requirement)
  ofMembers [("udp", ofStrings c.properties), ("honor_ral_hide", bool c.hide.honorProperty),
    ("hide", ofStrings c.hide.patterns), ("hash", ofString c.algorithm.keyword),
    ("include_name_and_desc", bool c.documented), ("async", bool c.asynchronous),
    ("legacy", bool c.typedBlocks), ("skip_tests", bool c.skipTests),
    ("package_name", ofText? c.packageName),
    ("runtime", ofMembers [(runtime.1, ofString runtime.2)])]

/-- What depends on the hash of a type or enumeration. -/
def ofNames (stable : Bool) (hash : Int) (name identifier : String) : List (String × Json) :=
  if stable then [("hash", ofHash hash), ("name", ofString name), ("ident", ofString identifier)]
  else []

def ofRecord (stable : Bool) (t : RegisterTree) (p : Plan) (r : TypeRecord) : Json :=
  let found := (p.record? r.hash).any fun other => other.place.id == r.place.id
  ofMembers ([("node", ofString (t.path r.place)),
      ("children", ofAccessors t (p.childrenOf r.place.id))] ++
    ofNames stable r.hash r.name r.identifier ++ if stable then [("by_hash", bool found)] else [])

/-- The type of a node in the plan. -/
def ofType (stable : Bool) (t : RegisterTree) (p : Plan) (place : Place) : Json :=
  let type := match p.typeOf? place.id with
    | some r => ofString (if stable then r.identifier else t.path r.place)
    | none => if p.isPlain place.id then bool true else null
  array [ofString (t.path place), type]

def ofEnumRecord (stable : Bool) (r : EnumRecord) : Json :=
  ofMembers ([("encoding", ofEncoding r.encoding),
    ("variants", ofStrings r.encoding.enumeration.variants)] ++
    ofNames stable r.hash r.name r.identifier)

def ofPlan (stable : Bool) (t : RegisterTree) (p : Plan) : Json :=
  let enumOf := t.places.filterMap fun place => (p.enumOf? place.id).map fun r =>
    array [ofString (t.path place),
      ofString (if stable then r.identifier else r.encoding.enumeration.name)]
  ofMembers [("records", array (p.records.map (ofRecord stable t p))),
    ("classes", array (t.places.map (ofType stable t p))),
    ("enums", array (p.enums.map (ofEnumRecord stable))), ("enum_of", array enumOf)]

/-- A package, with what the selected files hold. -/
def ofPackage (selected : String → Bool) (p : Package) : Json :=
  ofMembers [("name", ofString p.name),
    ("files", array (p.files.map fun f =>
      array [ofString f.1, if selected f.1 then ofString f.2 else null])),
    ("has_missing", bool false)]

end Json

end RegisterMap
