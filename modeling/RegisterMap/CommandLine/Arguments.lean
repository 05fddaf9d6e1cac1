import RegisterMap.Export.Config

/-!
# Arguments of the command

The options of the command that generates a package.  An option that takes a value finds it after an
equals sign, after its letter, or in the next argument, which may not look like an option then; an
option that may not be repeated is given at most once.  Whatever else stands among the arguments is
refused.
-/

namespace RegisterMap

/-- The options of the command. -/
inductive CommandOption where
  | input
  | output
  | top
  | property
  | hide
  | hash
  | async
  | skipTests
  | runTests
  | typedBlocks
  | config
  | packageName
  | runtimePath
  | includePath
  | verbose
  | help
deriving DecidableEq, Repr

namespace CommandOption

def all : List CommandOption :=
  [input, output, top, property, hide, hash, async, skipTests, runTests, typedBlocks, config,
    packageName, runtimePath, includePath, verbose, help]

/-- The name after two hyphens. -/
def name : CommandOption → String
  | input => "input"
  | output => "output"
  | top => "top"
  | property => "udp"
  | hide => "hide"
  | hash => "hash"
  | async => "async"
  | skipTests => "skip-tests"
  | runTests => "run-tests"
  | typedBlocks => "legacy-block-access"
  | config => "config"
  | packageName => "package-name"
  | runtimePath => "runtime-path"
  | includePath => "include"
  | verbose => "verbose"
  | help => "help"

/-- The letter after one hyphen, for those that have one. -/
def letter? : CommandOption → Option Char
  | input => some 'i'
  | output => some 'o'
  | includePath => some 'I'
  | verbose => some 'v'
  | help => some 'h'
  | _ => none

def takesValue : CommandOption → Bool
  | async | skipTests | runTests | typedBlocks | verbose | help => false
  | _ => true

/-- The option may be given more than once. -/
def isRepeatable : CommandOption → Bool
  | property | hide | includePath | verbose => true
  | _ => false

/-- The value is allowed: paths are not empty, and a hash is known. -/
def allows (o : CommandOption) (value : String) : Bool :=
  match o with
  | input | output | config | runtimePath | includePath => value != ""
  | hash => (HashAlgorithm.ofKeyword? value).isSome
  | _ => true

def named? (name : String) : Option CommandOption := all.find? (·.name == name)

def lettered? (letter : Char) : Option CommandOption := all.find? (·.letter? == some letter)

end CommandOption

/-- What help can be asked on. -/
inductive HelpTopic where
  | program
  | generation
  | help
deriving DecidableEq, Repr

/-- Why there are no arguments to run with. -/
inductive ArgumentStop where
  /-- The arguments are not those of the command. -/
  | refused (reason : String)
  | help (topic : HelpTopic)
  | version
deriving DecidableEq, Repr

/-- An option as given, with its value; options without one have an empty value. -/
abbrev GivenOption := CommandOption × String

namespace GivenOption

/-- What the arguments up to one of them are. -/
inductive Reading where
  | complete (given : List GivenOption)
  /-- Options of which the last one takes the next argument as its value. -/
  | pending (given : List GivenOption) (last : CommandOption)

/-- Adds an option with a value, which it has to allow, to those given before it. -/
def add (given : List GivenOption) (o : CommandOption) (value : String) :
    Except ArgumentStop (List GivenOption) :=
  if o = .help then .error (.help .generation)
  else if !o.isRepeatable && given.any (·.1 == o) then
    .error (.refused s!"--{o.name} cannot be used multiple times")
  else if o.allows value then .ok (given ++ [(o, value)])
  else .error (.refused s!"invalid value for --{o.name}")

/-- The options written with letters in one argument. -/
def readLetters (given : List GivenOption) : List Char → Except ArgumentStop Reading
  | [] => .ok (.complete given)
  | c :: rest => do
    let some o := CommandOption.lettered? c | throw (.refused s!"unexpected argument -{c}")
    if o.takesValue then
      match rest with
      | [] => pure (.pending given o)
      | '=' :: value => pure (.complete (← add given o (String.ofList value)))
      | value => pure (.complete (← add given o (String.ofList value)))
    else readLetters (← add given o "") rest

/-- The option written with its name, after the hyphens. -/
def readName (given : List GivenOption) (text : List Char) : Except ArgumentStop Reading := do
  let name := String.ofList (text.takeWhile (· != '='))
  let some o := CommandOption.named? name | throw (.refused s!"unexpected argument --{name}")
  match text.dropWhile (· != '='), o.takesValue with
  | [], true => pure (.pending given o)
  | [], false => pure (.complete (← add given o ""))
  | _ :: value, true => pure (.complete (← add given o (String.ofList value)))
  | _ :: _, false => throw (.refused s!"unexpected value for --{name}")

/-- The argument can be the value of an option before it. -/
def isValue (argument : String) : Bool := argument == "-" || argument.front != '-'

/-- The options of a list of arguments, after those given before it.  The first argument that is
wrong, or that asks for help, decides. -/
def readAll (given : List GivenOption) : List String → Except ArgumentStop (List GivenOption)
  | [] => .ok given
  | argument :: rest => do
    let reading ← match argument.toList with
      | ['-', '-'] =>
        if rest.isEmpty then pure (.complete given)
        else throw (.refused "unexpected argument after --")
      | '-' :: '-' :: name => readName given name
      | '-' :: c :: letters => readLetters given (c :: letters)
      | _ => throw (.refused s!"unexpected argument {argument}")
    match reading, rest with
    | .complete given, rest => readAll given rest
    | .pending given last, value :: rest =>
      if isValue value then do readAll (← add given last value) rest
      else throw (.refused s!"a value is required for --{last.name}")
    | .pending _ last, [] => throw (.refused s!"a value is required for --{last.name}")

end GivenOption

/-- What the command is asked to do. -/
structure Arguments where
  input : String
  /-- The directory in which the directory of the package is made. -/
  output : String
  /-- The path of the address map to export, if it is not the root. -/
  top : Option String
  /-- Properties to export besides those of the configuration. -/
  properties : List String
  /-- Patterns of paths to hide besides those of the configuration. -/
  patterns : List String
  /-- The hash, if it is not that of the configuration. -/
  hash : Option HashAlgorithm
  asynchronous : Bool
  skipTests : Bool
  runTests : Bool
  /-- Blocks of memory are moved in typed buffers. -/
  typedBlocks : Bool
  config : Option String
  /-- The name of the package, if it is not that of the configuration. -/
  packageName : Option String
  /-- The directory of the libraries, if it is not that of the configuration. -/
  runtimePath : Option String
  /-- Directories that are named in the output. -/
  includes : List String
deriving DecidableEq, Repr

namespace Arguments

/-- The arguments that options make up, of which one is the input. -/
def ofOptions (given : List GivenOption) : Except ArgumentStop Arguments :=
  let values (o : CommandOption) : List String := (given.filter (·.1 == o)).map (·.2)
  let value (o : CommandOption) : Option String := (values o).head?
  let isGiven (o : CommandOption) : Bool := !(values o).isEmpty
  match value .input with
  | none => .error (.refused "--input is required")
  | some input => .ok {
      input
      output := (value .output).getD "."
      top := value .top
      properties := values .property
      patterns := values .hide
      hash := (value .hash).bind HashAlgorithm.ofKeyword?
      asynchronous := isGiven .async
      skipTests := isGiven .skipTests
      runTests := isGiven .runTests
      typedBlocks := isGiven .typedBlocks
      config := value .config
      packageName := value .packageName
      runtimePath := value .runtimePath
      includes := values .includePath }

/-- The arguments of the program as they stand on the command line, the name of the command first. -/
def parse : List String → Except ArgumentStop Arguments
  | "ral-gen" :: rest => do ofOptions (← GivenOption.readAll [] rest)
  | ["help", "ral-gen"] => .error (.help .generation)
  | ["help", "help"] => .error (.help .help)
  | "--help" :: _ | ["help"] => .error (.help .program)
  | "--version" :: _ => .error .version
  | [] => .error (.refused "a command is required")
  | other :: _ =>
    match other.toList with
    | '-' :: 'h' :: _ => .error (.help .program)
    | '-' :: 'V' :: _ => .error .version
    | _ => .error (.refused s!"unrecognized command {other}")

end Arguments

end RegisterMap
