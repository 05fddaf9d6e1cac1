import Mathlib
import RegisterMap.Proofs.Source.Declarations
import RegisterMap.Proofs.Source.Rendered

/-!
# Members of generated types

A generated type has functions of its own and one for each shown child, and in a memory, an address
map or a register file also a field for each child.  The names that a kind reserves are those of the
functions and fields that its types have of their own, so the accessor names, which avoid them,
leave every member with a name that no other one has (`accessors_stand_apart`).  The list for
registers leaves out their only field: the children of a register are not fields of its type, so an
accessor may have the name of that one (`accessor_named_like_structure_field`).
-/

namespace RegisterMap

open Lines

namespace Rendering

variable {x : Rendering} {r : TypeRecord} {lines : Lines}

/-! ## Functions of types -/

/-- The function that opens a session. -/
def sessionName (x : Rendering) : String :=
  match x.flavor with
  | .blocking => "with_cached"
  | .asynchronous => "cached"

/-- The functions of the type of a register besides those for its fields. -/
def registerMethods (x : Rendering) (readable writable : Bool) : List String :=
  ["layout", "new", "register"] ++ (if readable then ["read", "read_fields"] else []) ++
    (if writable then ["write", "write_fields"] else []) ++ [x.sessionName]

/-- The functions of the type of a memory besides those for its children. -/
def memoryMethods (x : Rendering) (readable writable : Bool) : List String :=
  ["new", "memory", "entries"] ++ (if readable then ["read", "read_entry"] else []) ++
    (if writable then ["write", "write_entry"] else []) ++ [x.sessionName]

@[simp] lemma functions_propertyConstants (c : Component) :
    functions (x.propertyConstants c) = [] := by
  rw [functions, List.filterMap_eq_nil_iff]
  intro l hl
  obtain ⟨name, -, hl⟩ := List.mem_filterMap.1 hl
  obtain ⟨value, -, rfl⟩ := Option.map_eq_some_iff.1 hl
  cases value <;> simp [propertyConstant, function?, afterWord?, List.isPrefixOf?]

@[simp] lemma functions_documentation (c : Component) : functions (documentation c) = [] :=
  functions_commentLines

@[simp] lemma function?_constructorHead :
    function? (x.constructorHead ++ " \x7b") = some "new" := by
  refine function?_of_publicHead Flavor.blocking (by decide) ?_
  unfold constructorHead publicHead functionHead
  simp [Flavor.qualifier]

/-- A function that accesses hardware is declared under the name that its head begins with. -/
lemma functions_accessFunction (name : String) {head result call : String}
    (hname : Unseparated name)
    (hhead : name.toList ++ ['('] <+: head.toList) :
    functions (x.accessFunction head result call) = [name] := by
  obtain ⟨rest, hrest⟩ := hhead
  rw [accessFunction, functions_block, function?_of_publicHead x.flavor hname]
  · rfl
  · refine ⟨rest ++ (" -> RalResult<" ++ result ++ "> \x7b").toList, ?_⟩
    simp [publicHead, functionHead, ← hrest]

lemma functions_registerAccess (readable writable : Bool) :
    functions (x.registerAccess readable writable) =
      (if readable then ["read", "read_fields"] else []) ++
        (if writable then ["write", "write_fields"] else []) := by
  have hcomment : function? "/// Every readable field from a single register read." = none := by
    decide
  have hcomment' : function? "/// Updates the named fields with one read-modify-write." = none := by
    decide
  unfold registerAccess
  simp only [functions_append, functions_onlyIf, functions_apart, functions_cons, hcomment,
    hcomment', Option.toList_none, List.nil_append]
  rw [functions_accessFunction "read" (by decide) (by simp),
    functions_accessFunction "read_fields" (by decide) (by simp),
    functions_accessFunction "write" (by decide) (by simp),
    functions_accessFunction "write_fields" (by decide) (by simp)]
  rfl

lemma functions_registerSession : functions x.registerSession = [x.sessionName] := by
  unfold registerSession sessionName
  cases x.flavor with
  | blocking => decide
  | asynchronous => decide

lemma functions_memorySession : functions x.memorySession = [x.sessionName] := by
  unfold memorySession sessionName
  cases x.flavor with
  | blocking => decide
  | asynchronous => decide

lemma functions_memoryAccess (m : MemoryDetail) :
    functions (x.memoryAccess m) =
      (if m.access.readable then ["read", "read_entry"] else []) ++
        (if m.access.writable then ["write", "write_entry"] else []) := by
  unfold memoryAccess
  simp only [functions_append, functions_onlyIf, functions_apart]
  rw [functions_accessFunction "read" (by decide) (by simp),
    functions_accessFunction "read_entry" (by decide) (by simp),
    functions_accessFunction "write" (by decide) (by simp),
    functions_accessFunction "write_entry" (by decide) (by simp)]
  rfl

/-! ## Functions for children -/

/-- Parts that declare one function each, if its name holds no separator. -/
lemma functions_flatten {α : Type} {name : α → String} {l : List α} {parts : List Lines}
    (hparts : List.Forall₂ (fun a ls => Unseparated (name a) → functions ls = [name a]) l parts)
    (hnames : ∀ a ∈ l, Unseparated (name a)) : functions parts.flatten = l.map name := by
  induction hparts with
  | nil => rfl
  | cons hpart _ ih =>
    rw [List.forall_mem_cons] at hnames
    rw [List.flatten_cons, functions_append, hpart hnames.1, ih hnames.2]
    rfl

lemma functions_block_public (name : String) {head : String} {body : Lines}
    (hname : Unseparated name)
    (hhead : publicHead .blocking name <+: (head ++ " \x7b").toList) :
    functions (block head body) = [name] := by
  rw [functions_block, function?_of_publicHead .blocking hname hhead]
  rfl

lemma functions_fieldFunction {index : ℕ} {child : Place} {accessor : String}
    (hlines : x.fieldFunction index child accessor = .ok lines) (hname : Unseparated accessor) :
    functions lines = [accessor] := by
  unfold fieldFunction at hlines
  dsimp only at hlines
  split at hlines
  · cases hlines
    rw [functions_append, functions_documentation, List.nil_append]
    exact functions_block_public _ hname (by simp [publicHead, functionHead, Flavor.qualifier])
  · obtain ⟨type, -, hlines⟩ := bind_eq_ok.1 hlines
    cases hlines
    rw [functions_append, functions_documentation, List.nil_append]
    exact functions_block_public _ hname (by simp [publicHead, functionHead, Flavor.qualifier])

lemma functions_childFunctions {children : Accessors}
    (hlines : x.childFunctions children = .ok lines)
    (hnames : ∀ name ∈ children.map Prod.snd, Unseparated name) :
    functions lines = children.map Prod.snd := by
  unfold childFunctions at hlines
  obtain ⟨parts, hparts, hlines⟩ := bind_eq_ok.1 hlines
  cases hlines
  refine functions_flatten (forall₂_of_mapM_eq_ok (fun child ls hls hname => ?_) hparts)
    (List.forall_mem_map.1 hnames)
  obtain ⟨type, -, hls⟩ := bind_eq_ok.1 hls
  cases hls
  rw [functions_apart, functions_append, functions_documentation, List.nil_append]
  exact functions_block_public _ hname (by simp [publicHead, functionHead, Flavor.qualifier])

/-! ## Members of types -/

/-- Each child that is kept in its parent is a field of that one. -/
lemma forall₂_childDeclarations {children : Accessors}
    (hlines : x.childDeclarations children = .ok lines)
    (hnames : ∀ name ∈ children.map Prod.snd, Unseparated name) :
    List.Forall₂ IsField lines (children.map Prod.snd) := by
  have hfields : List.Forall₂ (fun child l => Unseparated child.2 → IsField l child.2) children
      lines := by
    refine forall₂_of_mapM_eq_ok (fun child l hl hname => ?_) hlines
    obtain ⟨parts, -, hl⟩ := bind_eq_ok.1 hl
    cases hl
    exact ⟨hname, ' ' :: (parts.1 ++ ",").toList, by simp⟩
  rw [List.forall₂_map_right_iff]
  have hboth := (List.forall₂_and_left _ _).2 ⟨List.forall_mem_map.1 hnames, hfields⟩
  exact (hboth.imp fun _ _ h => h.2 h.1).flip

section Parts

variable {c : Component} {head implementation : String} {body code : Lines} {names : List String}

/-- What the code of a type declares: the functions of its implementation, and the fields of its
structure. -/
lemma members_of_type (derived after : Lines)
    (hlines : lines = documentation c ++ (derived ++ block head body) ++
      (apart (block implementation code) ++ after))
    (hderived : ∀ l ∈ derived, l = "#[derive(Clone)]")
    (hhead : "pub struct ".toList <+: head.toList)
    (himplementation : "impl ".toList <+: implementation.toList)
    (hbody : List.Forall₂ IsField body names) :
    methods lines = functions code ++ methods after ∧ fields lines = names := by
  obtain ⟨rest, hrest⟩ := hhead
  obtain ⟨rest', hrest'⟩ := himplementation
  have hstructure : "pub struct ".toList.isPrefixOf (head ++ " \x7b").toList = true := by
    simp [← hrest, List.isPrefixOf]
  have houtside : afterWord? "    " (head ++ " \x7b").toList = none := by
    simp [← hrest, afterWord?, List.isPrefixOf?]
  have houtside' : afterWord? "    " (implementation ++ " \x7b").toList = none := by
    simp [← hrest', afterWord?, List.isPrefixOf?]
  have hnone : methods derived = [] := by
    rw [methods, nested, List.filterMap_eq_nil_iff.2 fun l hl => ?_]
    · rfl
    · rw [hderived l hl]
      decide
  subst hlines
  constructor
  · simp only [methods_append, methods_apart, documentation, methods_commentLines, hnone,
      methods_block houtside, methods_block houtside', functions_of_isField hbody, List.nil_append]
  · rw [← List.append_assoc (documentation c)]
    refine fields_structure (fun l hl => ?_) hstructure hbody
    rcases List.mem_append.1 hl with hl | hl
    · obtain ⟨text, htext, -⟩ := eq_of_mem_commentLines hl
      rw [htext]
      rfl
    · rw [hderived l hl]
      decide

end Parts

lemma functions_block_constructor {body : Lines} :
    functions (block x.constructorHead body) = ["new"] := by
  rw [functions_block, function?_constructorHead]
  rfl

lemma registerSource_eq_ok {d : RegisterDetail} (hlines : x.registerSource r d = .ok lines)
    (hnames : ∀ name ∈ (x.childrenOf r.place).map Prod.snd, Unseparated name) :
    methods lines =
        x.registerMethods ((x.fieldsOf r.place).any (·.2.2.access.readable))
            ((x.fieldsOf r.place).any (·.2.2.access.writable)) ++
          ((x.childrenOf r.place).map Prod.snd ++ ["from_register"]) ∧
      fields lines = ["reg"] := by
  unfold registerSource at hlines
  dsimp only at hlines
  generalize x.flavor.typeName "Register" = register,
    x.flavor.typeName "FromRegister" = trait at hlines
  obtain ⟨parts, hparts, hlines⟩ := bind_eq_ok.1 hlines
  have hfunctions : functions parts.flatten = (x.childrenOf r.place).map Prod.snd := by
    rw [← List.zipIdx_map_fst 0 (x.childrenOf r.place), List.map_map]
    refine functions_flatten (forall₂_of_mapM_eq_ok (fun a ls hls hname => ?_) hparts) ?_
    · obtain ⟨code, hcode, hls⟩ := bind_eq_ok.1 hls
      cases hls
      exact functions_apart.trans (functions_fieldFunction hcode hname)
    · intro a ha
      exact hnames _ (List.mem_map_of_mem (List.fst_mem_of_mem_zipIdx ha))
  have hbody : List.Forall₂ IsField [s!"reg: {register},"] ["reg"] :=
    .cons ⟨by decide, ' ' :: (register ++ ",").toList, by simp⟩ .nil
  have hfrom : function? (s!"fn from_register(reg: {register}) -> Self" ++ " \x7b") =
      some "from_register" :=
    function?_of_functionHead (by decide) (by simp [functionHead])
  have hcode := (Except.ok.inj hlines).symm.trans (List.append_assoc _ _ _)
  obtain ⟨hmethods, hfields⟩ := members_of_type ["#[derive(Clone)]"] _ hcode (by simp) (by simp)
    (by simp) hbody
  refine ⟨hmethods.trans ?_, hfields⟩
  rw [methods_apart, methods_block, functions_block, hfrom]
  · simp only [functions_append, functions_propertyConstants, functions_apart,
      functions_registerAccess, functions_registerSession, hfunctions, functions_block_constructor]
    rw [functions_block_public "layout" (by decide), functions_block_public "register" (by decide)]
    · unfold registerMethods
      simp only [List.append_assoc, List.nil_append, List.cons_append, Option.toList_some]
    · simp [publicHead, functionHead, Flavor.qualifier]
    · simp [publicHead, functionHead, Flavor.qualifier]
  · simp [afterWord?, List.isPrefixOf?]

lemma memorySource_eq_ok {m : MemoryDetail} (hlines : x.memorySource r m = .ok lines)
    (hnames : ∀ name ∈ (x.childrenOf r.place).map Prod.snd, Unseparated name) :
    methods lines = x.memoryMethods m.access.readable m.access.writable ++
        (x.childrenOf r.place).map Prod.snd ∧
      fields lines = "mem" :: (x.childrenOf r.place).map Prod.snd := by
  unfold memorySource at hlines
  dsimp only at hlines
  generalize x.flavor.typeName "Memory" = memory at hlines
  obtain ⟨declarations, hdeclarations, hlines⟩ := bind_eq_ok.1 hlines
  obtain ⟨initializers, -, hlines⟩ := bind_eq_ok.1 hlines
  obtain ⟨functions, hfunctions, hlines⟩ := bind_eq_ok.1 hlines
  have hbody : List.Forall₂ IsField (s!"mem: {memory}," :: declarations)
      ("mem" :: (x.childrenOf r.place).map Prod.snd) :=
    .cons ⟨by decide, ' ' :: (memory ++ ",").toList, by simp⟩
      (forall₂_childDeclarations hdeclarations hnames)
  have hcode := (Except.ok.inj hlines).symm
  rw [← List.append_nil (apart _)] at hcode
  obtain ⟨hmethods, hfields⟩ := members_of_type [] [] hcode nofun (by simp) (by simp) hbody
  refine ⟨hmethods.trans ?_, hfields⟩
  simp only [functions_append, functions_propertyConstants, functions_apart, functions_memoryAccess,
    functions_memorySession, functions_childFunctions hfunctions hnames,
    functions_block_constructor]
  rw [functions_block_public "memory" (by decide), functions_block_public "entries" (by decide)]
  · unfold memoryMethods
    simp only [List.append_assoc, List.cons_append, List.nil_append, methods_nil, List.append_nil]
  · simp [publicHead, functionHead, Flavor.qualifier]
  · simp [publicHead, functionHead, Flavor.qualifier]

lemma containerSource_eq_ok (hlines : x.containerSource r = .ok lines)
    (hnames : ∀ name ∈ (x.childrenOf r.place).map Prod.snd, Unseparated name) :
    methods lines = ["new", "name", "address"] ++ (x.childrenOf r.place).map Prod.snd ∧
      fields lines = ["name", "address"] ++ (x.childrenOf r.place).map Prod.snd := by
  unfold containerSource at hlines
  dsimp only at hlines
  obtain ⟨declarations, hdeclarations, hlines⟩ := bind_eq_ok.1 hlines
  obtain ⟨initializers, -, hlines⟩ := bind_eq_ok.1 hlines
  obtain ⟨functions, hfunctions, hlines⟩ := bind_eq_ok.1 hlines
  have hbody : List.Forall₂ IsField (["name: String,", "address: u64,"] ++ declarations)
      (["name", "address"] ++ (x.childrenOf r.place).map Prod.snd) :=
    .cons ⟨by decide, " String,".toList, by simp⟩
      (.cons ⟨by decide, " u64,".toList, by simp⟩
        (forall₂_childDeclarations hdeclarations hnames))
  have hcode := (Except.ok.inj hlines).symm
  rw [← List.append_nil (apart _)] at hcode
  obtain ⟨hmethods, hfields⟩ := members_of_type [] [] hcode nofun (by simp) (by simp) hbody
  refine ⟨hmethods.trans ?_, hfields⟩
  simp only [functions_append, functions_propertyConstants, functions_apart,
    functions_childFunctions hfunctions hnames, functions_block_constructor]
  rw [functions_block_public "name" (by decide), functions_block_public "address" (by decide)]
  · simp only [List.cons_append, List.nil_append, methods_nil, List.append_nil]
  · simp [publicHead, functionHead, Flavor.qualifier]
  · simp [publicHead, functionHead, Flavor.qualifier]

/-! ## Names that stand apart -/

/-- The names that the code of a type holds: its functions are its own and those for its children,
and so are its fields, unless it is a register, whose children are not fields of its type. -/
structure Members (kind : NodeKind) (names : List String) (lines : Lines) : Prop where
  methods : ∃ front back, methods lines = front ++ names ++ back ∧ (front ++ back).Nodup ∧
    ∀ name ∈ front ++ back, name ∈ kind.reservedNames
  fields : if kind = .register then fields lines = ["reg"] else
    ∃ own, fields lines = own ++ names ∧ own.Nodup ∧ ∀ name ∈ own, name ∈ kind.reservedNames

lemma registerMethods_reserved (readable writable : Bool) :
    (x.registerMethods readable writable ++ ["from_register"]).Nodup ∧
      ∀ name ∈ x.registerMethods readable writable ++ ["from_register"],
        name ∈ NodeKind.register.reservedNames := by
  unfold registerMethods sessionName
  cases x.flavor <;> cases readable <;> cases writable <;> decide

lemma memoryMethods_reserved (readable writable : Bool) :
    (x.memoryMethods readable writable).Nodup ∧
      ∀ name ∈ x.memoryMethods readable writable, name ∈ NodeKind.memory.reservedNames := by
  unfold memoryMethods sessionName
  cases x.flavor <;> cases readable <;> cases writable <;> decide

/-- What the code of a record declares besides its children is reserved by its kind. -/
lemma recordSource_eq_ok (hlines : x.recordSource r = .ok lines)
    (hfield : r.place.node.kind ≠ .field)
    (hnames : ∀ name ∈ (x.childrenOf r.place).map Prod.snd, Unseparated name) :
    Members r.place.node.kind ((x.childrenOf r.place).map Prod.snd) lines := by
  unfold recordSource at hlines
  split at hlines
  · next hdetail => exact absurd (congrArg Detail.kind hdetail) hfield
  · next hdetail =>
    have hkind : r.place.node.kind = .register := congrArg Detail.kind hdetail
    obtain ⟨hmethods, hfields⟩ := registerSource_eq_ok hlines hnames
    rw [hkind]
    exact ⟨⟨_, _, hmethods.trans (List.append_assoc _ _ _).symm, registerMethods_reserved _ _⟩,
      hfields⟩
  · next hdetail =>
    have hkind : r.place.node.kind = .memory := congrArg Detail.kind hdetail
    obtain ⟨hmethods, hfields⟩ := memorySource_eq_ok hlines hnames
    rw [hkind]
    refine ⟨⟨_, [], hmethods.trans (List.append_nil _).symm, ?_⟩, ["mem"], hfields, by decide⟩
    rw [List.append_nil]
    exact memoryMethods_reserved _ _
  · next hdetail =>
    have hkind : r.place.node.kind = .addressMap := congrArg Detail.kind hdetail
    obtain ⟨hmethods, hfields⟩ := containerSource_eq_ok hlines hnames
    rw [hkind]
    exact ⟨⟨_, [], hmethods.trans (List.append_nil _).symm, by decide⟩, _, hfields, by decide⟩
  · next hdetail =>
    have hkind : r.place.node.kind = .registerFile := congrArg Detail.kind hdetail
    obtain ⟨hmethods, hfields⟩ := containerSource_eq_ok hlines hnames
    rw [hkind]
    exact ⟨⟨_, [], hmethods.trans (List.append_nil _).symm, by decide⟩, _, hfields, by decide⟩
  · cases hlines

/-- Names that are reserved and names that are not are distinct together. -/
lemma nodup_members {own names taken : List String}
    (hown : own.Nodup ∧ ∀ name ∈ own, name ∈ taken) (hnames : names.Nodup)
    (hfree : ∀ name ∈ names, name ∉ taken) : (own ++ names).Nodup :=
  List.nodup_append.2 ⟨hown.1, hnames, fun a ha b hb heq => hfree b hb (heq ▸ hown.2 a ha)⟩

/-- Accessor names stand apart.  Among the names for the children of a node there is one for each,
made from the name of the child with the fewest underscores after it with which it is neither
reserved nor the name of an earlier one.  In the code of the type with these children, whatever the
flavour, the functions for the children follow one another in this order, and no two functions have
one name.  So it is with the fields of a memory, an address map or a register file, which end with
those for the children; the type of a register has one field, and none for its children. -/
theorem accessors_stand_apart (kind : NodeKind) (children : List Node) :
    (accessorNames kind children).length = children.length ∧ (accessorNames kind children).Nodup ∧
      (∀ i child name, children[i]? = some child → (accessorNames kind children)[i]? = some name →
        IsFresh (kind.reservedNames ++ (accessorNames kind children).take i)
          (Identifier.snakeCase child.accessorBase) name) ∧
      ∀ (x : Rendering) (r : TypeRecord) (lines : Lines), r.place.node.kind = kind → kind ≠ .field →
        (x.childrenOf r.place).map Prod.snd = accessorNames kind children →
        x.recordSource r = .ok lines →
          (methods lines).Nodup ∧ accessorNames kind children <:+: methods lines ∧
            if kind = .register then fields lines = ["reg"]
            else (fields lines).Nodup ∧ accessorNames kind children <:+ fields lines := by
  have hnodup : (accessorNames kind children).Nodup := freshNames_nodup _ _
  have hfree : ∀ name ∈ accessorNames kind children, name ∉ kind.reservedNames :=
    fun name => freshNames_disjoint
  refine ⟨length_accessorNames kind children, hnodup, fun i child name hchild hname => ?_, ?_⟩
  · obtain ⟨hi, rfl⟩ := List.getElem?_eq_some_iff.1 hname
    obtain ⟨hi', rfl⟩ := List.getElem?_eq_some_iff.1 hchild
    have hbase : i < (children.map fun n => Identifier.snakeCase n.accessorBase).length := by
      rwa [List.length_map]
    have hfresh := isFresh_freshNames kind.reservedNames _ i hi hbase
    rwa [List.getElem_map] at hfresh
  · rintro x r lines rfl hfield hchildren hlines
    have hnames : ∀ name ∈ (x.childrenOf r.place).map Prod.snd, Unseparated name := by
      rw [hchildren]
      exact fun _ => unseparated_accessorNames
    obtain ⟨⟨front, back, hmethods, hown⟩, hfields⟩ := recordSource_eq_ok hlines hfield hnames
    rw [hchildren] at hmethods hfields
    refine ⟨?_, ⟨front, back, hmethods.symm⟩, ?_⟩
    · have hperm : (front ++ accessorNames r.place.node.kind children ++ back).Perm
          (front ++ back ++ accessorNames r.place.node.kind children) := by
        rw [List.append_assoc, List.append_assoc]
        exact List.perm_append_comm.append_left front
      rw [hmethods, hperm.nodup_iff]
      exact nodup_members hown hnodup hfree
    · by_cases hregister : r.place.node.kind = .register
      · rw [if_pos hregister] at hfields ⊢
        exact hfields
      · rw [if_neg hregister] at hfields ⊢
        obtain ⟨own, hfields, hown⟩ := hfields
        rw [hfields]
        exact ⟨nodup_members hown hnodup hfree, List.suffix_append _ _⟩

section

attribute [local instance] Export.smallRun

/-- A register with a field named like one of its functions, another one that is to have the same
name, and one named like the field of its structure. -/
def clashingDescription : Description :=
  .group .addressMap "top" 0
    [.register "r" 0
      [.field "read" 0 3 .readWrite [],
        .field "b" 4 7 .readWrite [(accessorProperty, .text "Read")],
        .field "reg" 8 11 .readWrite []]]

/-- The children of the register, and the code of its type. -/
lemma clashing_register_renders : ∃ (x : Rendering) (r : TypeRecord) (children : List Node)
    (lines : Lines), exportPlan clashingDescription.tree {} ⟨true, []⟩ =
        .ok x.plan ∧ r ∈ x.plan.records ∧ r.place.node.kind = .register ∧
      accessorNames .register children = ["read_", "read__", "reg"] ∧
      (x.childrenOf r.place).map Prod.snd = accessorNames .register children ∧
      x.recordSource r = .ok lines ∧ fields lines = ["reg"] := by
  let x (plan : Plan) : Rendering := ⟨clashingDescription.tree, plan, {}⟩
  have hrun : ∃ plan ∈ (exportPlan clashingDescription.tree {}
      ⟨true, []⟩).toOption, ∃ r ∈ plan.records, r.place.node.kind = .register ∧
        accessorNames .register (((x plan).childrenOf r.place).map (·.1.node)) =
          ["read_", "read__", "reg"] ∧
        ((x plan).childrenOf r.place).map Prod.snd =
          accessorNames .register (((x plan).childrenOf r.place).map (·.1.node)) ∧
        ∃ lines ∈ ((x plan).recordSource r).toOption, fields lines = ["reg"] := by
    decide +kernel
  obtain ⟨plan, hplan, r, hr, hkind, hnames, hchildren, lines, hlines, hfields⟩ := hrun
  refine ⟨x plan, r, _, lines, exportPlan_of_mem hplan, hr, hkind, hnames, hchildren, ?_, hfields⟩
  cases hsource : (x plan).recordSource r with
  | error fault => rw [hsource] at hlines; cases hlines
  | ok code => rw [hsource] at hlines; cases hlines; rfl

/-- Two fields that are to be named like a function of their register get one underscore and two. -/
theorem clashing_fields_stand_apart : ∃ (x : Rendering) (r : TypeRecord) (lines : Lines),
    exportPlan clashingDescription.tree {} ⟨true, []⟩ = .ok x.plan ∧
      r ∈ x.plan.records ∧ x.recordSource r = .ok lines ∧ (methods lines).Nodup ∧
      ["read_", "read__", "reg"] <:+: methods lines := by
  obtain ⟨x, r, children, lines, hplan, hr, hkind, hnames, hchildren, hlines, -⟩ :=
    clashing_register_renders
  obtain ⟨-, -, -, hapart⟩ := accessors_stand_apart .register children
  obtain ⟨hnodup, hinfix, -⟩ := hapart x r lines hkind nofun hchildren hlines
  rw [hnames] at hinfix
  exact ⟨x, r, lines, hplan, hr, hlines, hnodup, hinfix⟩

/-- An accessor of a register may have the name of the field of its structure. -/
theorem accessor_named_like_structure_field : ∃ (x : Rendering) (r : TypeRecord)
    (children : List Node) (lines : Lines),
    exportPlan clashingDescription.tree {} ⟨true, []⟩ = .ok x.plan ∧
      r ∈ x.plan.records ∧ r.place.node.kind = .register ∧
      (x.childrenOf r.place).map Prod.snd = accessorNames .register children ∧
      x.recordSource r = .ok lines ∧
      "reg" ∈ accessorNames .register children ∧ "reg" ∈ fields lines := by
  obtain ⟨x, r, children, lines, hplan, hr, hkind, hnames, hchildren, hlines, hfields⟩ :=
    clashing_register_renders
  refine ⟨x, r, children, lines, hplan, hr, hkind, hchildren, hlines, ?_, ?_⟩
  · rw [hnames]
    decide
  · rw [hfields]
    decide

end

end Rendering

end RegisterMap
