import RegisterMap.Export.Plan
import RegisterMap.Source.Lines
import RegisterMap.Text.Quoted

/-!
# Rendering

What the parts of a generated package share: the tree, the plan and the configuration, the two
flavours of generated code, and the small pieces of code that occur in several files.
-/

namespace RegisterMap

/-- Generated code either waits for the hardware or can be awaited itself. -/
inductive Flavor where
  | blocking
  | asynchronous
deriving DecidableEq, Repr

namespace Flavor

/-- The name of a library type in a flavour. -/
def typeName (f : Flavor) (base : String) : String :=
  match f with
  | blocking => base
  | asynchronous => "Async" ++ base

/-- What stands before the keyword of a function that accesses hardware. -/
def qualifier : Flavor → String
  | blocking => ""
  | asynchronous => "async "

/-- What stands after a physical access. -/
def await : Flavor → String
  | blocking => ""
  | asynchronous => ".await"

def isAsync : Flavor → Bool
  | blocking => false
  | asynchronous => true

end Flavor

/-- What is rendered. -/
structure Rendering where
  tree : RegisterTree
  plan : Plan
  config : ExportConfig

namespace Rendering

/-- The flavour of the generated code. -/
def flavor (x : Rendering) : Flavor := if x.config.asynchronous then .asynchronous else .blocking

/-- The instance name of the export root. -/
def topName (x : Rendering) : String := x.tree.top.node.instName

/-- The module of the register model. -/
def topModule (x : Rendering) : String := Identifier.snakeCase x.topName

/-- The type of a node, which has to be in the plan. -/
def typeOf (x : Rendering) (p : Place) : Except ExportFault TypeRecord :=
  match x.plan.typeOf? p.id with
  | some record => .ok record
  | none => .error (.missingType (x.tree.path p))

/-- The type of the export root. -/
def topType (x : Rendering) : Except ExportFault TypeRecord := x.typeOf x.tree.top

/-- The shown children of the node of a record, with their accessor names. -/
def childrenOf (x : Rendering) (p : Place) : Accessors := x.plan.childrenOf p.id

/-- The shown fields of a register, with their places and accessor names. -/
def fieldsOf (x : Rendering) (p : Place) : List (Place × String × FieldDetail) :=
  (x.childrenOf p).filterMap fun (child, accessor) =>
    child.node.detail.field?.map fun f => (child, accessor, f)

/-- The first lines of every file but the register model. -/
def header : Lines :=
  ["// Licensed under the Apache-2.0 license", "//", "// Generated by ral-generator. Do not edit.",
    ""]

end Rendering

/-! ## Pieces of code -/

def Access.constant : Access → String
  | readWrite => "Access::ReadWrite"
  | readOnly => "Access::ReadOnly"
  | writeOnly => "Access::WriteOnly"

/-- The sum of an address and an offset, without an offset of zero. -/
def offsetExpression (base : String) (offset : Nat) : String :=
  if offset = 0 then base else base ++ " + " ++ Text.constant offset

/-- A list of numbers in brackets. -/
def numberList (ns : List Nat) : String := Text.bracketed (ns.map toString)

/-- The constant that holds a property. -/
def propertyConstant (name : String) (value : PropertyValue) : String :=
  let identifier := Text.uppercase (Identifier.snakeCase name)
  match value with
  | .flag _ => "pub const " ++ identifier ++ ": bool = " ++ value.display ++ ";"
  | .int _ => "pub const " ++ identifier ++ ": i64 = " ++ value.display ++ ";"
  | .text s => "pub const " ++ identifier ++ ": &'static str = " ++ Text.quoted s ++ ";"

end RegisterMap
