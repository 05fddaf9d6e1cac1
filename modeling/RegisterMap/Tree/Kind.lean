/-!
# Kinds of nodes

A register tree is made of address maps and register files, which hold other nodes, of registers
with their fields, of memories with registers that overlay them, and of signals, which take no room
in the address space.  A kind says what a node may contain.
-/

namespace RegisterMap

/-- The kind of a node. -/
inductive NodeKind where
  | addressMap
  | registerFile
  | register
  | field
  | memory
  | signal
deriving DecidableEq, Repr, Inhabited

namespace NodeKind

def all : List NodeKind := [addressMap, registerFile, register, field, memory, signal]

/-- The word that names the kind in a description. -/
def keyword : NodeKind → String
  | addressMap => "addrmap"
  | registerFile => "regfile"
  | register => "reg"
  | field => "field"
  | memory => "mem"
  | signal => "signal"

/-- The kind that a word names. -/
def ofKeyword? (word : String) : Option NodeKind := all.find? fun k => k.keyword == word

theorem ofKeyword?_keyword (k : NodeKind) : ofKeyword? k.keyword = some k := by
  cases k <;> decide

/-- The word that stands for the kind in structural hashes. -/
def tag : NodeKind → String
  | addressMap => "AddressMap"
  | registerFile => "RegisterFile"
  | register => "Register"
  | field => "Field"
  | memory => "Memory"
  | signal => "Signal"

/-- The short name of the kind in messages. -/
def shortName : NodeKind → String
  | addressMap => "AddrMap"
  | registerFile => "RegFile"
  | register => "Reg"
  | field => "Field"
  | memory => "Mem"
  | signal => "Signal"

/-- The definition name of nodes whose definition has none. -/
def anonymousTypeName (k : NodeKind) : String := "anon_" ++ k.keyword

/-- A node of the first kind may have a child of the second. -/
def mayContain : NodeKind → NodeKind → Bool
  | addressMap, addressMap | addressMap, registerFile | addressMap, register | addressMap, memory
  | addressMap, signal
  | registerFile, registerFile | registerFile, register | registerFile, signal
  | register, field | register, signal
  | memory, register | memory, signal => true
  | _, _ => false

end NodeKind

end RegisterMap
