import RegisterMap.Export.Config
import RegisterMap.Toml.Parser

/-!
# Configuration files

The configuration of an export as a TOML document.  Every setting may be missing; a setting that is
not known, or that has a value of the wrong kind, makes the file no configuration.
-/

namespace RegisterMap

namespace ExportConfig

/-! ## Values -/

def text? : Toml → Option String
  | .text s => some s
  | _ => none

def flag? : Toml → Option Bool
  | .flag b => some b
  | _ => none

def texts? : Toml → Option (List String)
  | .array items => items.mapM text?
  | _ => none

/-- Nothing: an empty list or table. -/
def nothing? : Toml → Option Unit
  | .array [] | .table _ [] | .tables [] => some ()
  | _ => none

/-! ## Settings -/

/-- The algorithm of a setting: its name, or a table with its name alone. -/
def algorithm? : Toml → Option HashAlgorithm
  | .text s => HashAlgorithm.ofKeyword? s
  | .table _ [(name, v)] => do
    let _ ← nothing? v
    HashAlgorithm.ofKeyword? name
  | _ => none

/-- Where the libraries are: a table with one of two settings. -/
def runtime? : Toml → Option RuntimeSource
  | .table _ [("path", v)] => (text? v).map .path
  | .table _ [("version", v)] => (text? v).map .version
  | _ => none

/-- Changes what is hidden by a setting. -/
def setHide (c : HideConfig) (name : String) (v : Toml) : Option HideConfig :=
  match name with
  | "honor_ral_hide" => (flag? v).map fun b => { c with honorProperty := b }
  | "patterns" => (texts? v).map fun ps => { c with patterns := ps }
  | _ => none

/-- What is hidden: a table of settings, or the list of their values in order. -/
def hide? : Toml → Option HideConfig
  | .table _ members => members.foldlM (fun c m => setHide c m.1 m.2) {}
  | .array [] => some {}
  | .array [honor] => setHide {} "honor_ral_hide" honor
  | .array (honor :: patterns :: _) => do
    setHide (← setHide {} "honor_ral_hide" honor) "patterns" patterns
  | _ => none

/-- Changes a configuration by a setting. -/
def set (c : ExportConfig) (name : String) (v : Toml) : Option ExportConfig :=
  match name with
  | "udp" => (texts? v).map fun ps => { c with properties := ps }
  | "hide" => (hide? v).map fun h => { c with hide := h }
  | "hash_algorithm" => (algorithm? v).map fun a => { c with algorithm := a }
  | "include_name_and_desc" => (flag? v).map fun b => { c with documented := b }
  | "asynchronous" => (flag? v).map fun b => { c with asynchronous := b }
  | "legacy_block_access" => (flag? v).map fun b => { c with typedBlocks := b }
  | "skip_test_case_generation" => (flag? v).map fun b => { c with skipTests := b }
  | "package_name" => (text? v).map fun s => { c with packageName := some s }
  | "runtime" => (runtime? v).map fun r => { c with runtime := r }
  | _ => none

/-- The configuration that a text writes, with the name of its file for complaints. -/
def ofToml (text file : String) : Except ExportFault ExportConfig := do
  let read : Option ExportConfig := do
    let members ← Toml.parse? text
    members.foldlM (fun c m => set c m.1 m.2) {}
  match read with
  | none => throw (.invalidConfiguration file)
  | some c => do
    c.validate
    pure c

end ExportConfig

end RegisterMap
