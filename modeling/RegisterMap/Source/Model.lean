import RegisterMap.Export.Comment
import RegisterMap.Source.Rendering

/-!
# The register model

The code of the register model: a type for every enumeration and for every record of the plan, and
the function that binds the export root to a bus.
-/

namespace RegisterMap

open Lines
open Text (quoted constant)

/-! ## Enumerations -/

/-- The members whose value no earlier member has; `seen` are the values so far. -/
def firstOfValues (seen : List Nat) : List (String × EnumEntry) → List (String × EnumEntry)
  | [] => []
  | (variant, entry) :: rest =>
    if seen.contains entry.value then firstOfValues seen rest
    else (variant, entry) :: firstOfValues (entry.value :: seen) rest

def EnumRecord.source (r : EnumRecord) : Lines :=
  let id := r.identifier
  let e := r.encoding.enumeration
  let variants := e.variants
  let members := variants.zip e.entries
  let pairs := e.entries.map fun entry => "(" ++ constant entry.value ++ ", " ++ quoted entry.name ++ ")"
  let list := "[" ++ String.intercalate ", " pairs ++ "]"
  [s!"/// `{e.name}`", "#[derive(Clone, Copy, Debug, PartialEq, Eq, Hash)]"] ++
    block s!"pub enum {id}"
      (members.flatMap fun (variant, entry) => commentLines none entry.desc ++ [variant ++ ","]) ++
    apart (block s!"impl {id}"
      (group "pub const MEMBERS: &'static [Self] = &[" "];"
          (variants.map fun variant => s!"Self::{variant},") ++
        apart (block "pub fn encoding() -> Arc<EnumDef>"
          [s!"Arc::new(EnumDef::new({quoted e.name}, &{list}))"]))) ++
    apart (block s!"impl FieldEnum for {id}"
      ([s!"const ENUM_NAME: &'static str = {quoted e.name};"] ++
        apart (block "fn value(self) -> u64" (block "match self"
          (members.map fun (variant, entry) => s!"Self::{variant} => {constant entry.value},"))) ++
        apart (block "fn name(self) -> &'static str" (block "match self"
          (members.map fun (variant, entry) => s!"Self::{variant} => {quoted entry.name},"))) ++
        apart (block "fn from_value(value: u64) -> Option<Self>" (block "match value"
          ((firstOfValues [] members).map (fun (variant, entry) =>
              s!"{constant entry.value} => Some(Self::{variant}),") ++ ["_ => None,"])))))

namespace Rendering

variable (x : Rendering)

/-! ## Parts of types -/

def documentation (c : Component) : Lines := commentLines c.name c.desc

/-- The constants that hold the exported properties of a node. -/
def propertyConstants (c : Component) : Lines :=
  x.config.propertyNames.filterMap fun name =>
    (Properties.get? c.properties name).map (propertyConstant name)

def constructorHead : String :=
  let bus := x.flavor.typeName "CallbackSet"
  s!"pub fn new(name: &str, address: u64, callbacks: Arc<dyn {bus}>) -> RalResult<Self>"

/-- A function that accesses hardware through a part of the type. -/
def accessFunction (head result call : String) : Lines :=
  block s!"pub {x.flavor.qualifier}fn {head} -> RalResult<{result}>" [s!"self.{call}{x.flavor.await}"]

/-- The type of a child in its parent, and the code that makes it. -/
def childParts (child : Place) : Except ExportFault (String × Lines) := do
  let c := child.node.component
  let id := (← x.typeOf child).identifier
  let name := "&format!(\"\x7bname\x7d." ++ c.instName ++ "\")"
  let address := offsetExpression "address" c.offset
  match c.array with
  | none => pure (id, [s!"{id}::new({name}, {address}, callbacks.clone())?"])
  | some a =>
    let dimensions := "vec!" ++ numberList a.dimensions
    let stride := constant a.stride
    if c.kind = .register then
      let typed := x.flavor.typeName "TypedRegisterArray"
      let array := x.flavor.typeName "RegisterArray"
      pure (s!"{typed}<{id}>",
        [s!"{typed}::new({array}::new({id}::layout({name}, {address})?, {dimensions}, {stride}, " ++
          "callbacks.clone()))"])
    else
      let element := "&format!(\"\x7bname\x7d." ++ c.instName ++ "\x7b\x7d\", index_suffix(index)),"
      pure (s!"NodeArray<{id}>",
        group s!"NodeArray::try_from_fn({dimensions}, |flat, index| \x7b" "\x7d)?"
          (group s!"{id}::new(" ")"
            [element, s!"{address} + flat as u64 * {stride},", "callbacks.clone(),"]))

/-- Code with something before its first and after its last line. -/
def wrapped (front back : String) : Lines → Lines
  | [] => []
  | [l] => [front ++ l ++ back]
  | l :: rest => (front ++ l) :: rest.dropLast ++ [rest.getLastD "" ++ back]

/-- The declarations of the children in the type of their parent. -/
def childDeclarations (children : Accessors) : Except ExportFault Lines :=
  children.mapM fun (child, accessor) => do pure s!"{accessor}: {(← x.childParts child).1},"

/-- The initializations of the children in the constructor of their parent. -/
def childInitializers (children : Accessors) : Except ExportFault Lines := do
  let parts ← children.mapM fun (child, accessor) => do
    pure (wrapped (accessor ++ ": ") "," (← x.childParts child).2)
  pure parts.flatten

/-- The functions that give access to the children. -/
def childFunctions (children : Accessors) : Except ExportFault Lines := do
  let functions ← children.mapM fun (child, accessor) => do
    let type := (← x.childParts child).1
    pure (apart (documentation child.node.component ++
      block s!"pub fn {accessor}(&self) -> &{type}" [s!"&self.{accessor}"]))
  pure functions.flatten

/-! ## Types -/

/-- The type of a field that is not plain. -/
def fieldSource (r : TypeRecord) (f : FieldDetail) : Lines :=
  let c := r.place.node.component
  let id := r.identifier
  let field := x.flavor.typeName "Field"
  let encoding := x.plan.enumOf? r.place.id
  let value := (encoding.map (·.identifier)).getD "u128"
  let call := if encoding.isSome then "_enum" else ""
  documentation c ++ ["#[derive(Clone)]", s!"pub struct {id}({field});"] ++
    apart (block s!"impl {id}"
      (x.propertyConstants c ++ block s!"pub fn field(&self) -> &{field}" ["&self.0"] ++
        onlyIf f.access.readable (apart (x.accessFunction "read(&self)" value s!"0.read{call}()")) ++
        onlyIf f.access.writable
          (apart (x.accessFunction s!"write(&self, value: {value})" "()" s!"0.write{call}(value)")))) ++
    apart (block s!"impl From<{field}> for {id}"
      (block s!"fn from(field: {field}) -> Self" ["Self(field)"]))

/-- The layout of a field in the layout of its register. -/
def fieldLayoutSource (child : Place) (f : FieldDetail) : String :=
  let reset := (f.reset.map fun r => s!".with_reset({constant r})").getD ""
  let encoding :=
    ((x.plan.enumOf? child.id).map fun e => s!".with_encoding({e.identifier}::encoding())").getD ""
  s!".with_field(FieldSpec::new({quoted child.node.instName}, " ++
    s!"FieldGeometry::from_msb_lsb({f.geometry.msb}, {f.geometry.lsb})?, {f.access.constant})" ++
    reset ++ encoding ++ ")"

/-- The function that gives access to a field of a register. -/
def fieldFunction (index : Nat) (child : Place) (accessor : String) : Except ExportFault Lines := do
  let docs := documentation child.node.component
  let field := x.flavor.typeName "Field"
  if x.plan.isPlain child.id then
    pure (docs ++ block s!"pub fn {accessor}(&self) -> {field}"
      [s!"self.reg.field_at({index})"])
  else
    let id := (← x.typeOf child).identifier
    pure (docs ++ block s!"pub fn {accessor}(&self) -> {id}" [s!"{id}(self.reg.field_at({index}))"])

/-- The functions that open a session on a register. -/
def registerSession : Lines :=
  match x.flavor with
  | .asynchronous =>
    block "pub async fn cached(&self, options: CacheOptions) -> RalResult<AsyncCachedRegister>"
      ["self.reg.cached(options).await"]
  | .blocking =>
    group "pub fn with_cached<T>(" ") -> RalResult<T> \x7b"
        ["&self,", "options: CacheOptions,",
          "f: impl FnOnce(&mut CachedRegister) -> RalResult<T>,"] ++
      indented ["self.reg.with_cached(options, f)"] ++ ["\x7d"]

/-- The functions that move a whole register. -/
def registerAccess (readable writable : Bool) : Lines :=
  onlyIf readable
      (apart (x.accessFunction "read(&self)" "u128" "reg.read()") ++
        apart ("/// Every readable field from a single register read." ::
          x.accessFunction "read_fields(&self)" "FieldValues" "reg.read_fields()")) ++
    onlyIf writable
      (apart (x.accessFunction "write(&self, value: u128)" "()" "reg.write(value)") ++
        apart ("/// Updates the named fields with one read-modify-write." ::
          x.accessFunction "write_fields(&self, args: &[(&str, FieldValue)])" "()"
            "reg.write_fields(args)"))

def registerSource (r : TypeRecord) (d : RegisterDetail) : Except ExportFault Lines := do
  let c := r.place.node.component
  let id := r.identifier
  let register := x.flavor.typeName "Register"
  let fromRegister := x.flavor.typeName "FromRegister"
  let children := x.childrenOf r.place
  let fields := x.fieldsOf r.place
  let functions ← children.zipIdx.mapM fun ((child, accessor), index) => do
    pure (apart (← x.fieldFunction index child accessor))
  pure (documentation c ++ "#[derive(Clone)]" :: block s!"pub struct {id}" [s!"reg: {register},"] ++
    apart (block s!"impl {id}"
      (x.propertyConstants c ++
        block "pub fn layout(name: &str, address: u64) -> RalResult<RegisterSpec>"
          (group s!"Ok(RegisterSpec::new(name, address, {d.width}, {d.accessWidth})" ")"
            (fields.map fun (child, _, f) => x.fieldLayoutSource child f)) ++
        apart (block x.constructorHead (group "Ok(Self \x7b" "\x7d)"
          [s!"reg: {register}::new(Self::layout(name, address)?, callbacks),"])) ++
        apart (block s!"pub fn register(&self) -> &{register}" ["&self.reg"]) ++
        x.registerAccess (fields.any (·.2.2.access.readable)) (fields.any (·.2.2.access.writable)) ++
        apart x.registerSession ++ functions.flatten)) ++
    apart (block s!"impl {fromRegister} for {id}"
      (block s!"fn from_register(reg: {register}) -> Self" ["Self \x7b reg \x7d"])))

/-- The functions that move entries of a memory. -/
def memoryAccess (m : MemoryDetail) : Lines :=
  let typed := x.config.typedBlocks
  let result := if typed then "TypedBuffer" else "Vec<u128>"
  let argument := if typed then "&TypedBuffer" else "&[u128]"
  let call := if typed then "_typed" else ""
  onlyIf m.access.readable
      (apart (x.accessFunction "read(&self, start: u64, count: usize)" result
          s!"mem.read{call}(start, count)") ++
        apart (x.accessFunction "read_entry(&self, index: u64)" "u128" "mem.read_entry(index)")) ++
    onlyIf m.access.writable
      (apart (x.accessFunction s!"write(&self, start: u64, data: {argument})" "()"
          s!"mem.write{call}(start, data)") ++
        apart (x.accessFunction "write_entry(&self, index: u64, value: u128)" "()"
          "mem.write_entry(index, value)"))

/-- The functions that open a session on entries of a memory. -/
def memorySession : Lines :=
  let range := ["&self,", "options: CacheOptions,", "start: u64,", "count: usize,"]
  match x.flavor with
  | .asynchronous =>
    group "pub async fn cached(" ") -> RalResult<AsyncCachedMemory> \x7b" range ++
      indented ["self.mem.cached(options, start, count).await"] ++ ["\x7d"]
  | .blocking =>
    group "pub fn with_cached<T>(" ") -> RalResult<T> \x7b"
        (range ++ ["f: impl FnOnce(&mut [u128]) -> RalResult<T>,"]) ++
      indented ["self.mem.with_cached(options, start, count, f)"] ++ ["\x7d"]

def memorySource (r : TypeRecord) (m : MemoryDetail) : Except ExportFault Lines := do
  let c := r.place.node.component
  let id := r.identifier
  let memory := x.flavor.typeName "Memory"
  let children := x.childrenOf r.place
  let declarations ← x.childDeclarations children
  let initializers ← x.childInitializers children
  let functions ← x.childFunctions children
  pure (documentation c ++ block s!"pub struct {id}" (s!"mem: {memory}," :: declarations) ++
    apart (block s!"impl {id}"
      (x.propertyConstants c ++
        block x.constructorHead
          (group "let spec = MemorySpec \x7b" "\x7d;"
              ["name: name.to_string(),", "address,", s!"entries: {constant m.entries},",
                s!"width: {m.width},", s!"accesswidth: {m.accessWidth},",
                s!"access: {m.access.constant},"] ++
            group "Ok(Self \x7b" "\x7d)"
              (initializers ++ [s!"mem: {memory}::new(spec, callbacks),"])) ++
        apart (block s!"pub fn memory(&self) -> &{memory}" ["&self.mem"]) ++
        apart (block "pub fn entries(&self) -> u64" ["self.mem.entries()"]) ++
        x.memoryAccess m ++ apart x.memorySession ++ functions)))

/-- The type of an address map or a register file. -/
def containerSource (r : TypeRecord) : Except ExportFault Lines := do
  let c := r.place.node.component
  let id := r.identifier
  let children := x.childrenOf r.place
  let declarations ← x.childDeclarations children
  let initializers ← x.childInitializers children
  let functions ← x.childFunctions children
  pure (documentation c ++
    block s!"pub struct {id}" (["name: String,", "address: u64,"] ++ declarations) ++
    apart (block s!"impl {id}"
      (x.propertyConstants c ++
        block x.constructorHead (group "Ok(Self \x7b" "\x7d)"
          (initializers ++ ["name: name.to_string(),", "address,"])) ++
        apart (block "pub fn name(&self) -> &str" ["&self.name"]) ++
        apart (block "pub fn address(&self) -> u64" ["self.address"]) ++ functions)))

def recordSource (r : TypeRecord) : Except ExportFault Lines :=
  match r.place.node.detail with
  | .field f => pure (x.fieldSource r f)
  | .register d => x.registerSource r d
  | .memory m => x.memorySource r m
  | .addressMap | .registerFile => x.containerSource r
  | .signal => throw (.unsupportedKind (x.tree.path r.place) .signal)

/-! ## The file -/

/-- The first lines of the register model. -/
def modelHeader : Lines :=
  let names := ["CallbackSet", "Field", "FromRegister", "Memory", "Register", "RegisterArray",
    "TypedRegisterArray"]
  let flavored := String.intercalate ", " (names.map x.flavor.typeName)
  let sessions := match x.flavor with
    | .asynchronous => "AsyncCachedArray, AsyncCachedMemory, AsyncCachedRegister,"
    | .blocking => "CachedRegister,"
  ["// Licensed under the Apache-2.0 license", "//",
    s!"// Generated by ral-generator from the `{x.topName}` address map. Do not edit.", "",
    "#![allow(dead_code, unused_imports)]", ""] ++
    group "use ral_runtime::\x7b" "\x7d;"
      ["index_suffix, Access, CacheOptions, EnumDef, FieldEnum, FieldGeometry, FieldSpec,",
        "FieldValue, FieldValues, MemorySpec, NodeArray, RalResult, RegisterSpec, TypedBuffer,",
        flavored ++ ",", sessions] ++
    ["use std::sync::Arc;"]

/-- The function that binds the export root, which lies at an address, to a bus. -/
def buildFunction (top : TypeRecord) (base : Nat) : Lines :=
  let address := constant base
  let bus := x.flavor.typeName "CallbackSet"
  s!"/// Binds the `{x.topName}` address map at {address} to `callbacks`." ::
    block s!"pub fn build(callbacks: Arc<dyn {bus}>) -> RalResult<{top.identifier}>"
      [s!"{top.identifier}::new({quoted x.topName}, {address}, callbacks)"]

def modelSource : Except ExportFault Lines := do
  let types ← x.plan.records.mapM fun r => do pure (apart (← x.recordSource r))
  let top ← x.topType
  let base ← ExportFault.ofOverflow x.tree.top.address
  pure (x.modelHeader ++ x.plan.enums.flatMap (fun e => apart e.source) ++ types.flatten ++
    apart (x.buildFunction top base))

end Rendering

end RegisterMap
