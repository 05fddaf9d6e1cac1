import RegisterMap.Text.Age
import RegisterMap.Text.Property
import RegisterMap.Text.Script
import RegisterMap.Text.Segment

/-!
# Names of classes

A pattern names a class of characters by what they are: by a general category, a script, a property
that holds or not, or by the value of a property that has several.  Names are compared in a loose
form, so that case, spaces, hyphens and underscores do not matter.  The classes of ASCII have exact
names of their own.
-/

namespace RegisterMap

namespace ClassName

open Text (Category Property)

/-- The loose form of a name: lowercase, without a leading "is" and without spaces, hyphens and
underscores. -/
def loose (name : List Char) : String :=
  let plain (cs : List Char) : List Char :=
    (cs.filter fun c => c.toNat < 0x80 && c != ' ' && c != '-' && c != '_').map Char.toLower
  match name with
  | i :: s :: rest =>
    if i.toLower = 'i' ∧ s.toLower = 's' then
      if plain rest = ['c'] then "isc" else String.ofList (plain rest)
    else String.ofList (plain name)
  | _ => String.ofList (plain name)

/-! ## ASCII -/

/-- The ASCII letters. -/
def asciiLetters : CharSet := .ofRanges [(0x41, 0x5a), (0x61, 0x7a)]

/-- The ASCII digits. -/
def asciiDigits : CharSet := .range 0x30 0x39

/-- The ASCII letters and digits and the underscore. -/
def asciiWord : CharSet := .unions [asciiLetters, asciiDigits, .single '_']

/-- The ASCII white space, the vertical tab included. -/
def asciiBlank : CharSet := .ofRanges [(0x9, 0xd), (0x20, 0x20)]

/-- The class of ASCII characters with a name. -/
def ascii? : String → Option CharSet
  | "alnum" => some (asciiLetters.union asciiDigits)
  | "alpha" => some asciiLetters
  | "ascii" => some (.range 0 0x7f)
  | "blank" => some (.ofChars ['\t', ' '])
  | "cntrl" => some (.ofRanges [(0, 0x1f), (0x7f, 0x7f)])
  | "digit" => some asciiDigits
  | "graph" => some (.range 0x21 0x7e)
  | "lower" => some (.range 0x61 0x7a)
  | "print" => some (.range 0x20 0x7e)
  | "punct" => some (.ofRanges [(0x21, 0x2f), (0x3a, 0x40), (0x5b, 0x60), (0x7b, 0x7e)])
  | "space" => some asciiBlank
  | "upper" => some (.range 0x41 0x5a)
  | "word" => some asciiWord
  | "xdigit" => some (.ofRanges [(0x30, 0x39), (0x41, 0x46), (0x61, 0x66)])
  | _ => none

/-! ## Words -/

def digits : CharSet := Category.set [.decimalNumber]

/-- The characters of words: letters and the like, marks, decimal digits, connectors, and the two
joiners. -/
def word : CharSet :=
  .unions [Text.alphabeticSet,
    Category.set [.nonspacingMark, .spacingMark, .enclosingMark, .decimalNumber,
      .connectorPunctuation],
    Property.listed .joinControl]

/-! ## General categories -/

/-- The names of general categories and of their groups, in the loose form, with the categories that
they stand for. -/
def categories : List (List String × List Category) :=
  [(["lu", "uppercaseletter"], [.uppercaseLetter]),
   (["ll", "lowercaseletter"], [.lowercaseLetter]),
   (["lt", "titlecaseletter"], [.titlecaseLetter]),
   (["lc", "casedletter"], [.uppercaseLetter, .lowercaseLetter, .titlecaseLetter]),
   (["lm", "modifierletter"], [.modifierLetter]),
   (["lo", "otherletter"], [.otherLetter]),
   (["l", "letter"],
    [.uppercaseLetter, .lowercaseLetter, .titlecaseLetter, .modifierLetter, .otherLetter]),
   (["mn", "nonspacingmark"], [.nonspacingMark]),
   (["mc", "spacingmark"], [.spacingMark]),
   (["me", "enclosingmark"], [.enclosingMark]),
   (["m", "mark", "combiningmark"], [.nonspacingMark, .spacingMark, .enclosingMark]),
   (["nd", "decimalnumber", "digit"], [.decimalNumber]),
   (["nl", "letternumber"], [.letterNumber]),
   (["no", "othernumber"], [.otherNumber]),
   (["n", "number"], [.decimalNumber, .letterNumber, .otherNumber]),
   (["pc", "connectorpunctuation"], [.connectorPunctuation]),
   (["pd", "dashpunctuation"], [.dashPunctuation]),
   (["ps", "openpunctuation"], [.openPunctuation]),
   (["pe", "closepunctuation"], [.closePunctuation]),
   (["pi", "initialpunctuation"], [.initialPunctuation]),
   (["pf", "finalpunctuation"], [.finalPunctuation]),
   (["po", "otherpunctuation"], [.otherPunctuation]),
   (["p", "punctuation", "punct"],
    [.connectorPunctuation, .dashPunctuation, .openPunctuation, .closePunctuation,
      .initialPunctuation, .finalPunctuation, .otherPunctuation]),
   (["sm", "mathsymbol"], [.mathSymbol]),
   (["sc", "currencysymbol"], [.currencySymbol]),
   (["sk", "modifiersymbol"], [.modifierSymbol]),
   (["so", "othersymbol"], [.otherSymbol]),
   (["s", "symbol"], [.mathSymbol, .currencySymbol, .modifierSymbol, .otherSymbol]),
   (["zs", "spaceseparator"], [.spaceSeparator]),
   (["zl", "lineseparator"], [.lineSeparator]),
   (["zp", "paragraphseparator"], [.paragraphSeparator]),
   (["z", "separator"], [.spaceSeparator, .lineSeparator, .paragraphSeparator]),
   (["cc", "control", "cntrl"], [.control]),
   (["cf", "format"], [.format]),
   (["co", "privateuse"], [.privateUse]),
   (["cn", "unassigned"], [.unassigned]),
   (["c", "other"], [.control, .format, .surrogate, .privateUse, .unassigned])]

/-- The set of a general category, or of a group of them, by its loose name. -/
def category? (name : String) : Option CharSet :=
  match name with
  | "any" => some .all
  | "ascii" => some (.range 0 0x7f)
  | "assigned" => some Text.assignedSet
  | _ => (categories.find? fun e => e.1.contains name).map fun e => Category.set e.2

/-! ## Scripts and versions -/

/-- The code of a script by its loose name or code. -/
def scriptCode? (name : String) : Option String :=
  (Text.scriptNames.find? fun names => names.any fun n => loose n.toList == name).bind List.head?

/-- The characters that a version of Unicode knows, by its number with a point, or without one after
a letter. -/
def version? (name : String) : Option CharSet :=
  (Text.versions.find? fun v =>
    v == name || String.ofList ('v' :: v.toList.filter (· != '.')) == name).map Text.knownSet

/-! ## Properties -/

/-- The loose names of the properties that a character has or has not. -/
def properties : List (List String × Property) :=
  [(["ahex", "asciihexdigit"], .asciiHexDigit), (["alpha", "alphabetic"], .alphabetic),
   (["bidic", "bidicontrol"], .bidiControl), (["bidim", "bidimirrored"], .bidiMirrored),
   (["ci", "caseignorable"], .caseIgnorable), (["cased"], .cased),
   (["cwcf", "changeswhencasefolded"], .changesWhenCasefolded),
   (["cwcm", "changeswhencasemapped"], .changesWhenCasemapped),
   (["cwl", "changeswhenlowercased"], .changesWhenLowercased),
   (["cwt", "changeswhentitlecased"], .changesWhenTitlecased),
   (["cwu", "changeswhenuppercased"], .changesWhenUppercased), (["dash"], .dash),
   (["di", "defaultignorablecodepoint"], .defaultIgnorable),
   (["dep", "deprecated"], .deprecatedCharacter), (["dia", "diacritic"], .diacritic),
   (["emoji"], .emoji), (["ecomp", "emojicomponent"], .emojiComponent),
   (["emod", "emojimodifier"], .emojiModifier), (["ebase", "emojimodifierbase"], .emojiModifierBase),
   (["epres", "emojipresentation"], .emojiPresentation),
   (["extpict", "extendedpictographic"], .extendedPictographic), (["ext", "extender"], .extender),
   (["grbase", "graphemebase"], .graphemeBase), (["grext", "graphemeextend"], .graphemeExtend),
   (["grlink", "graphemelink"], .graphemeLink), (["hex", "hexdigit"], .hexDigit),
   (["hyphen"], .hyphen), (["idcompatmathcontinue"], .idCompatMathContinue),
   (["idcompatmathstart"], .idCompatMathStart), (["idc", "idcontinue"], .idContinue),
   (["ids", "idstart"], .idStart), (["ideo", "ideographic"], .ideographic),
   (["idsb", "idsbinaryoperator"], .idsBinaryOperator),
   (["idst", "idstrinaryoperator"], .idsTrinaryOperator),
   (["idsu", "idsunaryoperator"], .idsUnaryOperator), (["joinc", "joincontrol"], .joinControl),
   (["loe", "logicalorderexception"], .logicalOrderException), (["lower", "lowercase"], .lowercase),
   (["math"], .math), (["mcm", "modifiercombiningmark"], .modifierCombiningMark),
   (["nchar", "noncharactercodepoint"], .noncharacter), (["oalpha", "otheralphabetic"], .otherAlphabetic),
   (["odi", "otherdefaultignorablecodepoint"], .otherDefaultIgnorable),
   (["ogrext", "othergraphemeextend"], .otherGraphemeExtend),
   (["oidc", "otheridcontinue"], .otherIdContinue), (["oids", "otheridstart"], .otherIdStart),
   (["olower", "otherlowercase"], .otherLowercase), (["omath", "othermath"], .otherMath),
   (["oupper", "otheruppercase"], .otherUppercase), (["patsyn", "patternsyntax"], .patternSyntax),
   (["patws", "patternwhitespace"], .patternWhiteSpace),
   (["pcm", "prependedconcatenationmark"], .prependedConcatenationMark),
   (["qmark", "quotationmark"], .quotationMark), (["radical"], .radical),
   (["ri", "regionalindicator"], .regionalIndicator), (["sterm", "sentenceterminal"], .sentenceTerminal),
   (["sd", "softdotted"], .softDotted), (["term", "terminalpunctuation"], .terminalPunctuation),
   (["uideo", "unifiedideograph"], .unifiedIdeograph), (["upper", "uppercase"], .uppercase),
   (["vs", "variationselector"], .variationSelector), (["space", "whitespace", "wspace"], .whiteSpace),
   (["xidc", "xidcontinue"], .xidContinue), (["xids", "xidstart"], .xidStart)]

/-- The set that a name alone stands for, by its loose form: a property, a general category or a
script. -/
def plain? (name : String) : Option CharSet :=
  match properties.find? fun e => e.1.contains name with
  | some e => some e.2.set
  | none => category? name <|> (scriptCode? name).map Text.scriptSet

/-- The set of the characters for which a property has a value, both by their loose names. -/
def valued? (name value : String) : Option CharSet :=
  match name with
  | "gc" | "generalcategory" => category? value
  | "sc" | "script" => (scriptCode? value).map Text.scriptSet
  | "scx" | "scriptextensions" => (scriptCode? value).map Text.extendedScriptSet
  | "age" => version? value
  | "gcb" | "graphemeclusterbreak" => Text.graphemeBreak? value
  | "wb" | "wordbreak" => Text.wordBreak? value
  | "sb" | "sentencebreak" => Text.sentenceBreak? value
  | _ => none

/-- A text cut at the first occurrence of a separator. -/
def cut? (text separator : String) : Option (String × String) :=
  match text.splitOn separator with
  | first :: second :: rest =>
    some (loose first.toList, loose (String.intercalate separator (second :: rest)).toList)
  | _ => none

/-- The set that a name in braces stands for, and whether its complement is meant: a name alone, or a
property and its value with a sign between them that says whether they are equal. -/
def set? (text : List Char) : Option (Bool × CharSet) :=
  let name := String.ofList text
  match cut? name "!=" with
  | some (property, value) => (valued? property value).map (true, ·)
  | none =>
    match cut? name ":" <|> cut? name "=" with
    | some (property, value) => (valued? property value).map (false, ·)
    | none => (plain? (loose text)).map (false, ·)

end ClassName

end RegisterMap
