import RegisterMap.Text.Additions
import RegisterMap.Text.Hex

/-!
# Quoted text

A text between double quotes in which every character can be seen and told apart.  Quotes,
backslashes and the common control characters have short escapes; any other character that does not
print on its own (controls, formats, separators other than the space, unassigned code points, and
marks that would join the character before them) is written by its code point.
-/

namespace RegisterMap.Text

/-- The spacing marks and characters without a visible form among the characters with a printing
category. -/
def hiddenSet : CharSet :=
  (((Category.set [.spacingMark]).inter graphemeExtendSet).union
    ((Property.listed .otherDefaultIgnorable).inter (Category.set [.otherLetter])))

/-- The character joins the one before it or has no visible form of its own, although its category is
one of characters that print. -/
def isHidden (c : Char) : Bool :=
  match latestCategory c with
  | .nonspacingMark | .enclosingMark => true
  | _ => hiddenSet.contains c

/-- The character has a visible form, or is the space. -/
def isPrintable (c : Char) : Bool :=
  match latestCategory c with
  | .control | .format | .surrogate | .privateUse | .unassigned
  | .lineSeparator | .paragraphSeparator => false
  | .spaceSeparator => c == ' '
  | _ => !isHidden c

/-- The quoted form of one character. -/
def quoteChar (c : Char) : List Char :=
  if c = '"' then ['\\', '"']
  else if c = '\\' then ['\\', '\\']
  else if c = '\n' then ['\\', 'n']
  else if c = '\r' then ['\\', 'r']
  else if c = '\t' then ['\\', 't']
  else if c.toNat = 0 then ['\\', '0']
  else if 0x20 ≤ c.toNat ∧ c.toNat < 0x7f then [c]
  else if !isPrintable c then
    '\\' :: 'u' :: '\x7b' :: hexDigits c.toNat ++ ['\x7d']
  else [c]

def quoted (text : String) : String :=
  String.ofList ('"' :: text.toList.flatMap quoteChar ++ ['"'])

end RegisterMap.Text
