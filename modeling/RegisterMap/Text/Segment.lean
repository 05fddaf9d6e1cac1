import RegisterMap.Text.Property
import RegisterMap.Text.Script

/-!
# Where text may be cut

The classes by which text is cut into what readers see as characters, into words and into sentences,
as of Unicode 16.  Most of them come from general categories and other properties, with the few code
points that the rules add or take away.
-/

namespace RegisterMap.Text

open CharSet (unions ofLines)

/-- The code points of carriage return, line feed and the zero width joiner, which are classes of
their own in more than one of the three ways to cut. -/
def loneClass? : String → Option CharSet
  | "cr" => some (ofLines ["d"])
  | "lf" => some (ofLines ["a"])
  | "zwj" => some (ofLines ["200d"])
  | _ => none

/-- The first Hangul syllables of each pair of leading consonant and vowel, which have no final
consonant. -/
def openSyllables : CharSet :=
  .ofRanges ((List.range 399).map fun i => (0xac00 + 28 * i, 0xac00 + 28 * i))

/-- Marks that take part of a line after the character before them. -/
def spacingExtendSet : CharSet := (Category.set [.spacingMark]).diff graphemeExtendSet

/-- The characters of a class by which text is cut into what readers see as characters, by its loose
name. -/
def graphemeBreak? : String → Option CharSet
  | "control" | "cn" =>
    some ((unions [Category.set [.lineSeparator, .paragraphSeparator, .control, .format],
      (Category.set [.unassigned]).inter (Property.set .defaultIgnorable)]).diff
        (unions [ofLines ["a d 200c-200d"], Property.listed .prependedConcatenationMark,
          graphemeExtendSet]))
  | "extend" | "ex" =>
    some ((graphemeExtendSet.union (Property.listed .emojiModifier)).diff (ofLines ["200d"]))
  | "prepend" | "pp" =>
    some ((Property.listed .prependedConcatenationMark).union (ofLines
      ["d4e 111c2-111c3 113d1 1193f 11941 11a3a 11a84-11a89 11d46 11f02"]))
  | "regionalindicator" | "ri" => some (Property.listed .regionalIndicator)
  | "spacingmark" | "sm" =>
    some ((spacingExtendSet.union (ofLines ["e33 eb3"])).diff (ofLines
      ["102b-102c 1038 1062-1064 1067-106d 1083 1087-108c 108f 109a-109c 1a61 1a63-1a64 aa7b aa7d",
   "11720-11721"]))
  | "l" => some (ofLines ["1100-115f a960-a97c"])
  | "v" => some (ofLines ["1160-11a7 d7b0-d7c6 16d63 16d67-16d6a"])
  | "t" => some (ofLines ["11a8-11ff d7cb-d7fb"])
  | "lv" => some openSyllables
  | "lvt" => some ((ofLines ["ac00-d7a3"]).diff openSyllables)
  | name => loneClass? name

/-- The marks that extend the character before them within a word. -/
def wordExtendSet : CharSet :=
  (unions [graphemeExtendSet, Category.set [.spacingMark], Property.listed .emojiModifier]).diff
    (ofLines ["200d"])

def hebrewLetters : CharSet := (scriptSet "Hebr").inter (Category.set [.otherLetter])

def katakanaSet : CharSet := (scriptSet "Kana").union (ofLines ["3031-3035 309b-309c 30a0 30fc ff70"])

/-- The characters of a class by which text is cut into words, by its loose name. -/
def wordBreak? : String → Option CharSet
  | "aletter" | "le" =>
    some ((alphabeticSet.diff (unions [Property.listed .ideographic, katakanaSet, scriptSet "Hira",
      wordExtendSet, hebrewLetters, ofLines
        ["e01-e30 e32-e33 e40-e46 e81-e82 e84 e86-e8a e8c-ea3 ea5 ea7-eb0 eb2-eb3 ebd ec0-ec4 ec6",
   "edc-edf 1000-102a 103f 1050-1055 105a-105d 1061 1065-1066 106e-1070 1075-1081 108e 1780-17b3",
   "17d7 17dc 1950-196d 1970-1974 1980-19ab 19b0-19c9 1a20-1a54 1aa7 a9e0-a9e4 a9e6-a9ef",
   "a9fa-a9fe aa60-aa76 aa7a aa7e-aaaf aab1 aab5-aab6 aab9-aabd aac0 aac2 aadb-aadd 11700-1171a",
   "11740-11746"]])).union (ofLines
      ["2c2-2c5 2d2-2d7 2de-2df 2e5-2eb 2ed 2ef-2ff 55a-55c 55e 58a 5f3 70f a708-a716 a720-a721",
   "a789-a78a ab5b"]))
  | "doublequote" | "dq" => some (ofLines ["22"])
  | "singlequote" | "sq" => some (ofLines ["27"])
  | "extend" => some wordExtendSet
  | "extendnumlet" | "ex" => some ((Category.set [.connectorPunctuation]).union (ofLines ["202f"]))
  | "format" | "fo" =>
    some ((Category.set [.format]).diff (unions [graphemeExtendSet, ofLines
      ["200b 200d", "600-605 6dd 70f 890-891 8e2 110bd 110cd"]]))
  | "hebrewletter" | "hl" => some hebrewLetters
  | "katakana" | "ka" => some katakanaSet
  | "midletter" | "ml" => some (ofLines ["3a b7 387 55f 5f4 2027 fe13 fe55 ff1a"])
  | "midnum" | "mn" => some (ofLines ["2c 3b 37e 589 60c-60d 66c 7f8 2044 fe50 fe54 ff0c ff1b"])
  | "midnumlet" | "mb" => some (ofLines ["2e 2018-2019 2024 fe52 ff07 ff0e"])
  | "newline" | "nl" => some (ofLines ["b-c 85 2028-2029"])
  | "numeric" | "nu" => some ((Category.set [.decimalNumber]).union (ofLines
      ["600-605 66b 6dd 890-891 8e2 19da 110bd 110cd"]))
  | "regionalindicator" | "ri" => some (Property.listed .regionalIndicator)
  | "wsegspace" => some ((Category.set [.spaceSeparator]).diff (ofLines ["a0 2007 202f"]))
  | name => loneClass? name

/-- The marks that extend the character before them within a sentence. -/
def sentenceExtendSet : CharSet :=
  unions [graphemeExtendSet, Category.set [.spacingMark], ofLines ["200d"]]

/-- The lowercase characters of sentences: all but the letters of scripts without case. -/
def sentenceLowerSet : CharSet :=
  lowercaseSet.diff (graphemeExtendSet.union (ofLines ["10d0-10fa 10fd-10ff"]))

/-- The characters that begin a sentence as capitals do. -/
def sentenceUpperSet : CharSet :=
  ((Category.set [.titlecaseLetter]).union uppercaseSet).diff (ofLines ["1c90-1cba 1cbd-1cbf"])

/-- The full stops that may also end an abbreviation. -/
def fullStopSet : CharSet := ofLines ["2e 2024 fe52 ff0e"]

/-- The characters of a class by which text is cut into sentences, by its loose name. -/
def sentenceBreak? : String → Option CharSet
  | "aterm" | "at" => some fullStopSet
  | "close" | "cl" =>
    some ((unions
      [Category.set [.openPunctuation, .closePunctuation, .initialPunctuation, .finalPunctuation],
      Property.listed .quotationMark, ofLines ["275b-2760 2e00-2e01 2e06-2e08 2e0b 1f676-1f678"]]).diff
        (ofLines ["ff02 ff07"]))
  | "extend" | "ex" => some sentenceExtendSet
  | "format" | "fo" =>
    some ((Category.set [.format]).diff (unions [graphemeExtendSet, ofLines
      ["600-605 6dd 890-891 8e2 200d 110bd 110cd"]]))
  | "lower" | "lo" => some sentenceLowerSet
  | "numeric" | "nu" => some ((Category.set [.decimalNumber]).union (ofLines
      ["600-605 66b-66c 6dd 890-891 8e2 19da 110bd 110cd"]))
  | "oletter" | "le" =>
    some ((alphabeticSet.diff (unions [sentenceLowerSet, sentenceUpperSet, sentenceExtendSet])).union
      (ofLines ["5f3"]))
  | "scontinue" | "sc" => some (ofLines
      ["2c-2d 3a-3b 37e 55d 60c-60d 7f8 1802 1808 2013-2014 3001 fe10-fe11 fe13-fe14 fe31-fe32",
   "fe50-fe51 fe54-fe55 fe58 fe63 ff0c-ff0d ff1a-ff1b ff64"])
  | "sep" | "se" => some (ofLines ["85 2028-2029"])
  | "sp" => some (blankSet.diff (ofLines ["a d 85 2028-2029"]))
  | "sterm" | "st" => some ((Property.listed .sentenceTerminal).diff fullStopSet)
  | "upper" | "up" => some sentenceUpperSet
  | name => if name == "zwj" then none else loneClass? name

end RegisterMap.Text
