import RegisterMap.Json.Report
import RegisterMap.Tree.Place

/-!
# Nodes as JSON

How a node and what hangs on it are reported: paths instead of references, and sizes and addresses
in hexadecimal.
-/

namespace RegisterMap

namespace Json

/-- A text that may be missing. -/
def ofText? (t : Option String) : Json := ofOption ofString t

/-- The entries of an enumeration: value, name and description of each. -/
def ofEntries (e : Enumeration) : Json :=
  array (e.entries.map fun entry => array [hex entry.value, ofString entry.name, ofText? entry.desc])

def ofEncoding (e : FieldEncoding) : Json :=
  ofMembers [("name", ofString e.enumeration.name), ("scope_path", ofText? e.scopePath),
    ("entries", ofEntries e.enumeration)]

def ofArrayShape (a : ArrayShape) : Except Overflow Json := do
  pure (ofMembers [("dimensions", ofNats a.dimensions), ("stride", hex a.stride),
    ("len", ofNat (← a.length)), ("empty", bool (← a.isEmpty))])

/-- A property: its name and the readings of its value. -/
def ofProperty (p : String × PropertyValue) : Json :=
  array [ofString p.1, ofMembers [("text", ofString p.2.display), ("bool", ofOption bool p.2.flag?),
    ("str", ofText? p.2.text?)]]

def ofDetail (n : Node) : Json :=
  match n.detail with
  | .register r =>
    ofMembers [("regwidth", ofNat r.width), ("accesswidth", ofNat r.accessWidth),
      ("readable", bool n.readable), ("writable", bool n.writable), ("reset", hex n.resetValue)]
  | .field f =>
    ofMembers [("msb", ofNat f.geometry.msb), ("lsb", ofNat f.geometry.lsb), ("sw", ofAccess f.access),
      ("hw_writable", bool f.hardwareWritable), ("reset", ofOption hex f.reset),
      ("encode", ofOption ofEncoding f.encoding)]
  | .memory m =>
    ofMembers [("mementries", hex m.entries), ("memwidth", ofNat m.width),
      ("accesswidth", ofNat m.accessWidth), ("sw", ofAccess m.access)]
  | _ => null

def ofPlace (t : RegisterTree) (p : Place) : Except Overflow Json := do
  let c := p.node.component
  let address ← p.address
  let array? ← c.array.mapM ofArrayShape
  pure (ofMembers [("path", ofString (t.path p)), ("kind", ofString c.kind.tag),
    ("inst_name", ofString c.instName), ("type", ofString c.baseTypeName),
    ("type_name", ofText? c.typeName), ("scope_path", ofText? c.scopePath),
    ("type_key", ofString c.typeKey), ("name", ofText? c.name), ("desc", ofText? c.desc),
    ("offset", hex c.offset), ("address", hex address), ("array", ofOption id array?),
    ("properties", array (c.properties.map ofProperty)), ("children", ofNat p.node.children.length),
    ("detail", ofDetail p.node)])

end Json

end RegisterMap
