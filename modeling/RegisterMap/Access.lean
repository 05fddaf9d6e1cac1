/-!
# Software access

What software may do with a field, a register or a memory.  An object that is neither readable nor
writable has no access value at all, which is why the conversion from the two flags is partial.
-/

namespace RegisterMap

/-- Software access of a field, register or memory. -/
inductive Access where
  | readWrite
  | readOnly
  | writeOnly
deriving DecidableEq, Repr, Inhabited

namespace Access

/-- The access with the given abilities, if there is one. -/
def ofFlags (readable writable : Bool) : Option Access :=
  match readable, writable with
  | true, true => some .readWrite
  | true, false => some .readOnly
  | false, true => some .writeOnly
  | false, false => none

def readable : Access → Bool
  | .readWrite | .readOnly => true
  | .writeOnly => false

def writable : Access → Bool
  | .readWrite | .writeOnly => true
  | .readOnly => false

def keyword : Access → String
  | .readWrite => "rw"
  | .readOnly => "r"
  | .writeOnly => "w"

/-- The access that a word stands for. -/
def ofKeyword? (word : String) : Option Access :=
  [readWrite, readOnly, writeOnly].find? fun a => a.keyword == word

theorem ofKeyword?_keyword (a : Access) : ofKeyword? a.keyword = some a := by
  cases a <;> decide

theorem ofFlags_readable_writable (a : Access) : ofFlags a.readable a.writable = some a := by
  cases a <;> rfl

end Access

end RegisterMap
