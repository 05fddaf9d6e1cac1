import RegisterMap.CommandLine.Arguments
import RegisterMap.Source.Lines

/-!
# Help on the command line

What the program says when it is asked for help.  The entries of a listing have their descriptions
beside them in one column; where the entries are so wide that a description would not fit there, all
descriptions of the listing stand below their entries instead.
-/

namespace RegisterMap

namespace CommandOption

def description : CommandOption → String
  | input => "Compiled register tree (JSON)"
  | output => "Directory the package directory is created in [default: .]"
  | top => "Dotted path of the address map to export, defaults to the root"
  | property => "User-defined property to fold into hashes and emit (repeatable)"
  | hide => "Regular expression over dotted paths of nodes to hide (repeatable)"
  | hash => "Structural hash: sha256 or fast"
  | async => "Emit async accessors"
  | skipTests => "Do not generate test cases"
  | runTests => "Run `cargo test` in the generated package"
  | typedBlocks => "Block accessors use TypedBuffer"
  | config => "TOML export configuration, command line flags take precedence"
  | packageName => "Name of the generated Cargo package"
  | runtimePath => "Directory holding the runtime and sim crates, for path dependencies"
  | includePath => "Include paths given to the register compiler, recorded for provenance"
  | verbose => "More output (-v info, -vv debug)"
  | help => "Print help"

/-- What stands for the value of the option. -/
def placeholder (o : CommandOption) : String :=
  String.ofList (o.name.toList.map fun c => if c = '-' then '_' else c.toUpper)

/-- The option as a listing shows it. -/
def entry (o : CommandOption) : String :=
  let letter := match o.letter? with
    | some c => String.ofList ['-', c, ',', ' ']
    | none => "    "
  let taken := if o.takesValue then s!" <{o.placeholder}>" else if o = .verbose then "..." else ""
  letter ++ "--" ++ o.name ++ taken

end CommandOption

namespace Help

/-- The number of columns of a line. -/
def lineWidth : Nat := 100

/-- The lines of a listing of entries with their descriptions. -/
def listing (entries : List (String × String)) : List String :=
  let widest := entries.foldl (fun n e => max n e.1.length) 0
  let taken := widest + 8
  let isCrowded := entries.any fun e => 40 < taken ∧ lineWidth - taken < e.2.length
  entries.flatMap fun e =>
    if isCrowded then ["  " ++ e.1, "          " ++ e.2]
    else ["  " ++ String.ofList (e.1.toList.rightpad (widest + 2) ' ') ++ e.2]

def lines : HelpTopic → List String
  | .program =>
    ["Usage: xtask <COMMAND>", "", "Commands:"] ++
      listing [("ral-gen", "Generate a register access layer package from a compiled register tree"),
        ("help", "Print this message or the help of the given subcommand(s)")] ++
      ["", "Options:"] ++
      listing [("-h, --help", "Print help"), ("-V, --version", "Print version")]
  | .generation =>
    ["Generate a register access layer package from a compiled register tree", "",
      "Usage: xtask ral-gen [OPTIONS] --input <INPUT>", "", "Options:"] ++
      listing (CommandOption.all.map fun o => (o.entry, o.description))
  | .help =>
    ["Print this message or the help of the given subcommand(s)", "",
      "Usage: xtask help [COMMAND]...", "", "Arguments:"] ++
      listing [("[COMMAND]...", "Print help for the subcommand(s)")]

end Help

end RegisterMap
