import RegisterMap.Field.Layout

/-!
# Register layouts

The description of a register: its address, its width, the width of one physical access, and its
fields.  Everything about a register that needs no bus is decided here: which values fit, how field
values are decoded from a register value, and how the arguments of a field write become a mask and
a value that are merged into what the register holds.

A field write is prepared as a whole before anything is read or written, so an argument that is
refused leaves no trace.  Of several arguments for one field the last one counts.
-/

namespace RegisterMap

/-- The contribution of a field write to a register value: the bits of `mask` take the bits of
`value`, all others stay. -/
structure WriteMask where
  /-- The bits that are written. -/
  mask : Nat
  value : Nat
deriving DecidableEq, Repr, Inhabited

namespace WriteMask

def empty : WriteMask := ⟨0, 0⟩

/-- The register value after the write. -/
def apply (w : WriteMask) (base : Nat) : Nat := clearBits base w.mask ||| w.value

/-- One contribution after another: where both write a bit, the later one wins. -/
def andThen (first later : WriteMask) : WriteMask :=
  ⟨first.mask ||| later.mask, clearBits first.value later.mask ||| later.value⟩

end WriteMask

/-- Static description of a register. -/
structure RegisterLayout where
  name : String
  /-- Its address in bytes. -/
  address : Nat
  /-- Its width in bits. -/
  width : Nat
  /-- The width of one physical access in bits. -/
  accessWidth : Nat
  /-- Its fields in order. -/
  fields : List FieldLayout
deriving DecidableEq, Repr, Inhabited

namespace RegisterLayout

/-- The same layout under another name at another address, as for the elements of an array. -/
def relocate (r : RegisterLayout) (address : Nat) (name : String) : RegisterLayout :=
  { r with name, address }

/-! ## What software may do -/

def readable (r : RegisterLayout) : Bool := r.fields.any (·.access.readable)

def writable (r : RegisterLayout) : Bool := r.fields.any (·.access.writable)

/-- The access of the register as a whole; a register without fields has none. -/
def access (r : RegisterLayout) : Option Access := Access.ofFlags r.readable r.writable

/-- Refuses registers that cannot be read. -/
def checkReadable (r : RegisterLayout) : Except Fault Unit :=
  if r.readable then .ok () else .error (.accessDenied r.name .read)

/-- Refuses registers that cannot be written. -/
def checkWritable (r : RegisterLayout) : Except Fault Unit :=
  if r.writable then .ok () else .error (.accessDenied r.name .write)

/-! ## Values -/

/-- The largest value of the register. -/
def maxValue (r : RegisterLayout) : Nat := valueMask r.width

/-- Refuses values that do not fit. -/
def checkValue (r : RegisterLayout) (value : Nat) : Except Fault Unit :=
  if r.maxValue < value then .error (.tooLarge value r.maxValue) else .ok ()

/-- The register value with every field at its reset value; fields without one are zero. -/
def resetValue (r : RegisterLayout) : Nat :=
  (r.fields.filterMap fun f => f.reset.bind fun v => (f.geometry.encode v).toOption).foldl (· ||| ·) 0

/-- The register takes more than one physical access. -/
def isWide (r : RegisterLayout) : Bool := r.accessWidth < r.width

/-- Number of words of the access width in the register. -/
def wordCount (r : RegisterLayout) : Nat := r.width / r.accessWidth

/-- A value that goes through a single access. -/
def toWord (_ : RegisterLayout) (value : Nat) : Except Fault Nat :=
  if wordMask maxWordWidth < value then .error (.tooLarge value (wordMask maxWordWidth)) else .ok value

/-! ## Fields -/

/-- The field with a name: the first one that has it. -/
def field? (r : RegisterLayout) (name : String) : Option FieldLayout :=
  r.fields.find? (·.name == name)

/-- The field with a name, or the fault that says that there is none. -/
def field (r : RegisterLayout) (name : String) : Except Fault FieldLayout :=
  match r.field? name with
  | some f => .ok f
  | none => .error (.unknownField r.name name)

/-- The name of a field within its register. -/
def fieldPath (r : RegisterLayout) (f : FieldLayout) : String := r.name ++ "." ++ f.name

/-- The values of all readable fields of one register value. -/
def decodeFields (r : RegisterLayout) (raw : Nat) : Except Fault FieldValues :=
  (r.fields.filter (·.access.readable)).mapM fun f => do pure (f.name, ← f.decode raw r.width)

/-! ## Field writes -/

/-- What one argument of a field write contributes. -/
def contribution (r : RegisterLayout) (arg : String × FieldValue) : Except Fault WriteMask := do
  let f ← r.field arg.1
  if f.access.writable then
    pure ⟨f.geometry.bitmask, ← f.encode arg.2⟩
  else
    throw (.accessDenied (r.fieldPath f) .write)

/-- Checks and encodes the arguments of a field write. -/
def prepareWrite (r : RegisterLayout) (args : FieldValues) : Except Fault WriteMask :=
  if args.isEmpty then .error (.noFieldArguments r.name)
  else args.foldlM (fun acc arg => acc.andThen <$> r.contribution arg) .empty

/-- The register value `base` with the named fields replaced. -/
def composeWrite (r : RegisterLayout) (base : Nat) (args : FieldValues) : Except Fault Nat :=
  (fun w => w.apply base) <$> r.prepareWrite args

/-- The fields that the arguments leave out. -/
def missingFields (r : RegisterLayout) (args : FieldValues) : List String :=
  (r.fields.map (·.name)).filter fun name => !args.any (·.1 == name)

/-- A register that cannot be read cannot keep the fields that are not written, so all of them have
to be given. -/
def checkComplete (r : RegisterLayout) (args : FieldValues) : Except Fault Unit :=
  if r.readable || (r.missingFields args).isEmpty then .ok ()
  else .error (.missingFields r.name (r.missingFields args))

end RegisterLayout

end RegisterMap
