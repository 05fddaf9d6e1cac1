import RegisterMap.Bus.Simulator
import RegisterMap.Bus.Transfer
import RegisterMap.Device.TypedBuffer
import RegisterMap.Field.Layout
import RegisterMap.Json.Value

/-!
# Values as JSON

How values, layouts and bus calls are reported as JSON.  Values, addresses and sizes are texts of
hexadecimal digits, because they may exceed what JSON tools keep exactly; widths, counts and
positions are numbers.
-/

namespace RegisterMap

namespace Json

/-- A value in hexadecimal. -/
def hex (n : Nat) : Json := ofString (Text.hex n)

/-- Values in hexadecimal. -/
def hexes (ns : List Nat) : Json := array (ns.map hex)

def ofNats (ns : List Nat) : Json := array (ns.map ofNat)

def ofStrings (ss : List String) : Json := array (ss.map ofString)

/-- A value that may be missing. -/
def ofOption {α : Type} (f : α → Json) : Option α → Json
  | some a => f a
  | none => null

def ofAccess (a : Access) : Json := ofString a.keyword

def ofMember (m : EnumMember) : Json :=
  ofMembers [("enum", ofString m.enumeration), ("name", ofString m.name), ("value", hex m.value)]

def ofFieldValue : FieldValue → Json
  | .int v => hex v
  | .member m => ofMember m

/-- The values of fields with their names. -/
def ofFieldValues (vs : FieldValues) : Json :=
  array (vs.map fun p => array [ofString p.1, ofFieldValue p.2])

/-- Bits as text, bit 0 first. -/
def ofBits (bits : List Bool) : Json :=
  ofString (String.ofList (bits.map fun b => if b then '1' else '0'))

/-- A typed buffer; its type is named by its width. -/
def ofBuffer (b : TypedBuffer) : Json :=
  ofMembers [("type", ofString s!"u{b.size.width}"), ("values", hexes b.elements),
    ("len", ofNat b.length), ("empty", bool b.isEmpty), ("element_width", ofNat b.elementWidth)]

def ofTransfer (t : Transfer) : Json :=
  ofMembers [("address", hex t.address), ("width", ofNat t.width),
    ("accesswidth", ofNat t.accessWidth), ("entries", ofNat t.entries), ("stride", hex t.stride)]

/-- A physical access: its kind and its arguments in order. -/
def ofCall : Call → Json
  | .read a w x => array [ofString "read", hex a, ofNat w, ofNat x]
  | .write a w x d => array [ofString "write", hex a, ofNat w, ofNat x, hex d]
  | .readBlock a w x n => array [ofString "read_block", hex a, ofNat w, ofNat x, ofNat n]
  | .writeBlock a w x ds => array [ofString "write_block", hex a, ofNat w, ofNat x, hexes ds]

def ofCounts (c : AccessCounts) : Json :=
  ofMembers [("reads", ofNat c.reads), ("writes", ofNat c.writes),
    ("block_reads", ofNat c.blockReads), ("block_writes", ofNat c.blockWrites),
    ("total_reads", ofNat c.totalReads), ("total_writes", ofNat c.totalWrites)]

end Json

end RegisterMap
