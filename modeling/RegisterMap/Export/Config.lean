import RegisterMap.Export.Fault
import RegisterMap.Export.HashItem

/-!
# Configuration of an export

Everything that shapes an export besides the tree: which properties are exported, what is hidden, how
shapes are hashed, which flavour of code is generated, and what the package is called and needs.
-/

namespace RegisterMap

/-- The property that hides a node with everything in it. -/
def hideProperty : String := "ral_hide"

/-- The properties with a meaning of their own, which never count as part of a shape. -/
def reservedProperties : List String := [hideProperty, "ral_inst_name"]

/-- What is hidden. -/
structure HideConfig where
  /-- Nodes with the hiding property are hidden. -/
  honorProperty : Bool := true
  /-- Nodes are hidden whose whole path fits one of these patterns. -/
  patterns : List String := []
deriving DecidableEq, Repr

/-- Where a generated package finds the libraries that it needs. -/
inductive RuntimeSource where
  | path (directory : String)
  | version (requirement : String)
deriving DecidableEq, Repr

/-- The configuration of an export. -/
structure ExportConfig where
  /-- The properties that are part of shapes and become constants. -/
  properties : List String := []
  hide : HideConfig := {}
  algorithm : HashAlgorithm := .sha256
  /-- Names and descriptions are part of shapes. -/
  documented : Bool := true
  asynchronous : Bool := false
  /-- Blocks of memory are moved in typed buffers. -/
  typedBlocks : Bool := false
  skipTests : Bool := false
  /-- The name of the package, if it is not made from the export root. -/
  packageName : Option String := none
  runtime : RuntimeSource := .version "0.1.0"
deriving DecidableEq, Repr

namespace ExportConfig

/-- A configuration may not export properties that have a meaning of their own. -/
def validate (c : ExportConfig) : Except ExportFault Unit :=
  match c.properties.find? reservedProperties.contains with
  | some name => .error (.reservedProperty name)
  | none => .ok ()

/-- Exports one more property, if it is not exported yet. -/
def addProperty (c : ExportConfig) (name : String) : ExportConfig :=
  if c.properties.contains name then c else { c with properties := c.properties ++ [name] }

/-- Hides the nodes whose path fits one more pattern. -/
def addPattern (c : ExportConfig) (pattern : String) : ExportConfig :=
  { c with hide := { c.hide with patterns := c.hide.patterns ++ [pattern] } }

/-- Inserts a name into an ordered list of names, unless it is there. -/
def insertName (name : String) : List String → List String
  | [] => [name]
  | n :: rest =>
    if n = name then n :: rest
    else if name < n then name :: n :: rest
    else n :: insertName name rest

/-- The exported properties in order, each once. -/
def propertyNames (c : ExportConfig) : List String := c.properties.foldl (fun ns n => insertName n ns) []

end ExportConfig

end RegisterMap
