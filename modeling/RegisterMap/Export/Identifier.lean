import RegisterMap.Text.Hex

/-!
# Identifiers

Names of a register tree as identifiers of the generated code: accessors and modules in lowercase
with underscores, types in capitalized words.  Only ASCII letters change case, and only ASCII
punctuation and white space separate words; an identifier that is a reserved word of the generated
language gets an underscore.
-/

namespace RegisterMap

namespace Identifier

/-! ## Characters -/

/-- ASCII punctuation: the visible characters that are neither letters nor digits. -/
def isPunctuation (c : Char) : Bool := '!' ≤ c && c ≤ '~' && !c.isAlphanum

/-- ASCII white space; the vertical tab is none. -/
def isSpace (c : Char) : Bool :=
  c == ' ' || c == '\t' || c == '\n' || c.toNat == 0x0c || c == '\r'

def isSeparator (c : Char) : Bool := isPunctuation c || isSpace c

/-! ## Reserved words -/

/-- The reserved words of the generated language. -/
def keywords : List String :=
  ["as", "break", "const", "continue", "crate", "else", "enum", "extern", "false", "fn", "for", "if",
    "impl", "in", "let", "loop", "match", "mod", "move", "mut", "pub", "ref", "return", "self", "Self",
    "static", "struct", "super", "trait", "true", "type", "unsafe", "use", "where", "while", "async",
    "await", "dyn", "abstract", "become", "box", "do", "final", "macro", "override", "priv", "try",
    "typeof", "unsized", "virtual", "yield"]

/-- A name that is no reserved word: reserved words get an underscore. -/
def avoidKeyword (name : String) : String := if keywords.contains name then name ++ "_" else name

/-! ## Lowercase words -/

/-- The characters of a name in lowercase with underscores.  A run of separators gives one
underscore, and so does the step from a lowercase to an uppercase letter; `before` is the previous
character of the name, where every separator counts as an underscore. -/
def underscored (before : Option Char) : List Char → List Char
  | [] => []
  | c :: rest =>
    if isSeparator c then
      (if before = some '_' then [] else ['_']) ++ underscored (some '_') rest
    else
      (if before.any Char.isLower && c.isUpper then ['_'] else []) ++
        c.toLower :: underscored (some c) rest

/-- The underscore before a name that begins with a digit. -/
def digitGuard (name : List Char) : List Char :=
  if name.head?.any Char.isDigit then ['_'] else []

/-- The characters without the underscores at their end. -/
def dropUnderscores (cs : List Char) : List Char := (cs.reverse.dropWhile (· == '_')).reverse

/-- A name as an identifier in lowercase; a name of separators alone is a single underscore. -/
def snakeCase (name : String) : String :=
  match dropUnderscores (digitGuard name.toList ++ underscored none name.toList) with
  | [] => "_"
  | cs => avoidKeyword (String.ofList cs)

/-! ## Capitalized words -/

/-- The characters of a name without separators, each word beginning with an uppercase letter;
`first` says that a word begins. -/
def capitalized (first : Bool) : List Char → List Char
  | [] => []
  | c :: rest =>
    if isSeparator c then capitalized true rest
    else (if first then c.toUpper else c.toLower) :: capitalized false rest

/-- A name as an identifier in capitalized words. -/
def camelCase (name : String) : String :=
  avoidKeyword (String.ofList (digitGuard name.toList ++ capitalized true name.toList))

end Identifier

end RegisterMap
