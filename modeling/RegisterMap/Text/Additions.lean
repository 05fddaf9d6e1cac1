import RegisterMap.Text.Property

/-!
# Characters of the newest edition

Unicode 17 assigned code points that were unassigned in Unicode 16 and left the categories of the
others as they were, but for one letter.  Text that is shown is classified by the newest edition:
the categories of Unicode 16 with these additions.
-/

namespace RegisterMap.Text

/-- The ranges that Unicode 17 assigned, each after the abbreviation of its general category. -/
def additionLines : List String :=
  ["Lo88f Loc5c Locdc Mn1acf-1add Mn1ae0-1aeb Sc20c1 So2b96 Lua7ce Lla7cf Lua7d2 Lua7d4 Lma7f1",
   "Sofbc3-fbd2 Sofd90-fd91 Sofdc8-fdce Lo10940-10959 Lm10ec5 Lo10ec6-10ec7 Po10ed0 So10ed1-10ed8",
   "Mn10efa-10efb Mn11b60 Mc11b61 Mn11b62-11b64 Mc11b65 Mn11b66 Mc11b67 Lo11db0-11dd8 Lm11dd9",
   "Lo11dda-11ddb Nd11de0-11de9 Lu16ea0-16eb8 Ll16ebb-16ed3 Lm16ff2-16ff3 Nl16ff4-16ff6",
   "Lo187f8-187ff Lo18d09-18d1e Lo18d80-18df2 So1ccfa-1ccfc So1ceba-1ced0 So1cee0-1ceef Sm1cef0",
   "Lo1e6c0-1e6de Lo1e6e0-1e6e2 Mn1e6e3 Lo1e6e4-1e6e5 Mn1e6e6 Lo1e6e7-1e6ed Mn1e6ee-1e6ef",
   "Lo1e6f0-1e6f4 Mn1e6f5 Lo1e6fe Lm1e6ff So1f6d8 So1f777-1f77a Sm1f8d0-1f8d8 So1fa54-1fa57",
   "So1fa8a So1fa8e So1fac8 So1facd So1faea So1faef So1fbfa Lo2b73a-2b73f Lo2cea2-2cead",
   "Lo323b0-33479"]

/-- The ranges that Unicode 17 assigned, with their general categories. -/
def additions : List ((Nat × Nat) × Category) :=
  (tableWords additionLines).filterMap fun word =>
    (Category.ofAbbreviation? (String.ofList (word.take 2))).map fun c => (wordRange (word.drop 2), c)

/-- The marks among the additions that belong to words as letters do. -/
def addedAlphabetic : CharSet := .ofLines
  ["10efa-10efb 11b60-11b67 1e6e3 1e6e6 1e6ee-1e6ef 1e6f5"]

/-- The general category of a character in Unicode 17. -/
def latestCategory (c : Char) : Category :=
  match additions.find? fun e => e.1.1 ≤ c.toNat && c.toNat ≤ e.1.2 with
  | some (_, added) => added
  | none => category c

/-- Letters, and the marks and symbols that belong to words as letters do, in Unicode 17. -/
def isAlphabetic (c : Char) : Bool :=
  alphabeticSet.contains c || addedAlphabetic.contains c ||
    [Category.uppercaseLetter, .lowercaseLetter, .modifierLetter, .otherLetter, .letterNumber].contains
      (latestCategory c)

/-- Letters and the like, and numbers of any kind, in Unicode 17. -/
def isAlphanumeric (c : Char) : Bool :=
  isAlphabetic c || [Category.decimalNumber, .letterNumber, .otherNumber].contains (latestCategory c)

end RegisterMap.Text
