import RegisterMap.Overflow
import RegisterMap.Text.Quoted

/-!
# Faults of register access

The reasons why an access to a register, field, array or memory is refused or fails.  Every fault
carries what the caller needs to act on it; its wording for people is the function
`Fault.message`.  Faults found by checking the arguments are raised before any physical access, so
a refused write leaves the hardware as it was.
-/

namespace RegisterMap

open Text (hex quoted bracketed)

/-- Reasons why four bit numbers and a width do not describe a field. -/
inductive GeometryFault where
  /-- The high bit lies below the low bit. -/
  | highBelowLow (high low : Nat)
  /-- The bits between low and high are more than can be counted.  Nothing reports this: the program
  stops at the count. -/
  | uncountable
  /-- The declared width is not the number of bits between low and high. -/
  | widthMismatch (width low high : Nat)
  /-- The high bit lies beyond the widest register. -/
  | beyondRegister (high : Nat)
  /-- The most and least significant bits are not the two ends of the range. -/
  | endsMismatch (msb lsb low high : Nat)
deriving DecidableEq, Repr

def GeometryFault.message : GeometryFault → String
  | highBelowLow high low => s!"high bit {high} is below low bit {low}"
  | uncountable => Overflow.sum.message
  | widthMismatch width low high => s!"width {width} does not match bits {low}..={high}"
  | beyondRegister high => s!"high bit {high} is beyond a {maxValueWidth} bit register"
  | endsMismatch msb lsb low high => s!"msb {msb} / lsb {lsb} do not match bits {low}..={high}"

/-- The two directions of a software access. -/
inductive Operation where
  | read
  | write
deriving DecidableEq, Repr

def Operation.name : Operation → String
  | read => "read"
  | write => "write"

/-- The four physical accesses that a bus may offer. -/
inductive CallKind where
  | read
  | write
  | readBlock
  | writeBlock
deriving DecidableEq, Repr

/-- The words for a physical access. -/
def CallKind.name : CallKind → String
  | read => "read"
  | write => "write"
  | readBlock => "block read"
  | writeBlock => "block write"

/-- The sort of a field value: a plain integer, or a member of a named enumeration. -/
inductive ValueSort where
  | integer
  | enumeration (name : String)
deriving DecidableEq, Repr

/-- The words for a sort of value. -/
def ValueSort.name : ValueSort → String
  | integer => "integer"
  | enumeration name => "enumeration " ++ name

/-- What can be too wide to be moved: a whole entry, or one physical access. -/
inductive WidthLimit where
  | entry
  | access
deriving DecidableEq, Repr

namespace WidthLimit

/-- The word for a limited width. -/
def name : WidthLimit → String
  | entry => "entry"
  | access => "access"

def bound : WidthLimit → Nat
  | entry => maxValueWidth
  | access => maxWordWidth

end WidthLimit

/-- A refused or failed access. -/
inductive Fault where
  /-- A negative value was to be encoded. -/
  | negative (value : Int)
  /-- A value lies above the largest that fits. -/
  | tooLarge (value max : Nat)
  | invalidGeometry (cause : GeometryFault)
  /-- A field holds a value that its enumeration does not name. -/
  | notEnumMember (enumeration : String) (value : Nat)
  /-- A field was given a value of the wrong sort. -/
  | wrongType (field : String) (expected actual : ValueSort)
  | noFieldArguments (register : String)
  | unknownField (register field : String)
  /-- A register that cannot be read was written without some of its fields. -/
  | missingFields (register : String) (missing : List String)
  /-- The object does not permit the operation. -/
  | accessDenied (name : String) (operation : Operation)
  /-- The bus does not offer the access. -/
  | missingCallback (kind : CallKind) (address : Nat)
  | bus (address : Nat) (reason : String)
  /-- A value read back differs from the one written. -/
  | verifyMismatch (address expected actual : Nat)
  | sessionActive (name : String)
  | indexOutOfRange (index dimensions : List Nat)
  /-- An entry or an access is wider than supported. -/
  | tooWide (limit : WidthLimit) (width : Nat)
  /-- The number of entries is not the expected one. -/
  | lengthMismatch (expected actual : Nat)
deriving DecidableEq, Repr

/-- The program stops where the fault arises, instead of handing it to the caller. -/
def Fault.aborts : Fault → Bool
  | invalidGeometry .uncountable => true
  | _ => false

def Fault.message : Fault → String
  | negative value => s!"value {value} is negative"
  | tooLarge value max => s!"value {hex value} exceeds the maximum of {hex max}"
  | invalidGeometry .uncountable => GeometryFault.uncountable.message
  | invalidGeometry cause => s!"invalid field geometry: {cause.message}"
  | notEnumMember enumeration value =>
    s!"value {hex value} is not a member of enumeration {enumeration}"
  | wrongType field expected actual => s!"field {field} expects {expected.name}, got {actual.name}"
  | noFieldArguments register => s!"write_fields on {register} called without any field"
  | unknownField register field => s!"{register} has no field named {field}"
  | missingFields register missing =>
    s!"write-only register {register} requires every field, missing " ++
      bracketed (missing.map quoted)
  | accessDenied name operation => s!"{name} does not permit {operation.name}"
  | missingCallback kind address => s!"no {kind.name} callback available for address {hex address}"
  | bus address reason => s!"bus error at {hex address}: {reason}"
  | verifyMismatch address expected actual =>
    s!"read back {hex actual} from {hex address} after writing {hex expected}"
  | sessionActive name => s!"a cached access session is already open on {name}"
  | indexOutOfRange index dimensions =>
    "index " ++ bracketed (index.map toString) ++ " out of range for dimensions " ++
      bracketed (dimensions.map toString)
  | tooWide limit width =>
    s!"{width} bit {limit.name} exceeds the supported maximum of {limit.bound} bits"
  | lengthMismatch expected actual => s!"expected {expected} entries, got {actual}"

end RegisterMap
