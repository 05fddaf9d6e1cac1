import RegisterMap.Digest.Folded
import RegisterMap.Digest.Sha256
import RegisterMap.Json.Value

/-!
# Hash inputs

What a structural hash is taken of: texts, integers, truth values, and lists of those.  An input is
reduced to a signed number of 64 bits.  A stable hash goes by way of the bytes: the input is written
as JSON without blanks, so equal inputs give equal bytes and different inputs different ones.  A quick
hash is a function of the input that is chosen anew for every run, and all that is said of it here is
said of any such function.
-/

namespace RegisterMap

/-- One element of a hash input. -/
inductive HashItem where
  | text (s : String)
  | int (i : Int)
  | flag (b : Bool)
  | list (items : List HashItem)
deriving Repr, Inhabited

namespace HashItem

/-- A natural number as an element. -/
def nat (n : Nat) : HashItem := int n

def pair (key : String) (value : HashItem) : HashItem := list [text key, value]

mutual

def toJson : HashItem → Json
  | text s => .ofString s
  | int i => .ofInt i
  | flag b => .bool b
  | list items => .array (toJsons items)

def toJsons : List HashItem → List Json
  | [] => []
  | item :: rest => toJson item :: toJsons rest

end

/-- The bytes of an element, each character in UTF-8. -/
def bytes (item : HashItem) : List UInt8 := item.toJson.write.flatMap String.utf8EncodeChar

end HashItem

/-- The digest that a run has of its own.  Other runs have others. -/
class RunHash where
  digest : HashItem → Int64

/-- A digest of a run, by its seed. -/
@[reducible] def Folded.runHash (seed : UInt64) : RunHash where
  digest item := head64 seed item.bytes

/-- The ways to reduce a hash input. -/
inductive HashAlgorithm where
  /-- The digest of the run. -/
  | fast
  /-- A digest that stays the same between runs and hosts. -/
  | sha256
deriving DecidableEq, Repr, Inhabited

namespace HashAlgorithm

/-- The word that names an algorithm. -/
def keyword : HashAlgorithm → String
  | fast => "fast"
  | sha256 => "sha256"

/-- The algorithm that a word names. -/
def ofKeyword? (word : String) : Option HashAlgorithm := [fast, sha256].find? fun a => a.keyword == word

/-- What is said about a word that names no algorithm. -/
def unknownMessage (word : String) : String :=
  s!"unknown hash algorithm {word}, expected sha256 or fast"

def digest [RunHash] (a : HashAlgorithm) (item : HashItem) : Int :=
  match a with
  | fast => (RunHash.digest item).toInt
  | sha256 => Sha256.head64 item.bytes

end HashAlgorithm

end RegisterMap
