import RegisterMap.Text.Additions
import RegisterMap.Text.Folding
import RegisterMap.Pattern.ClassName
import RegisterMap.Pattern.Expression

/-!
# The signs of patterns

What stands for one character, one class or one condition in the notation of patterns: literals,
escapes for characters by their codes, escapes for classes, anchors and word boundaries; and the
flags that change what they mean.

In verbose notation blanks and comments do not count.  They are skipped between any two signs, and
also between the digits and letters inside braces.
-/

namespace RegisterMap

namespace Pattern

/-- The flags in force. -/
structure Flags where
  /-- Letters stand for both cases. -/
  ignoreCase : Bool := false
  multiline : Bool := false
  dotAll : Bool := false
  /-- Classes are those of Unicode. -/
  unicode : Bool := true
  /-- Blanks and comments in the notation do not count. -/
  verbose : Bool := false
  /-- Lines may also end in a carriage return. -/
  returns : Bool := false
deriving DecidableEq, Repr

/-! ## Blanks -/

/-- Skips blanks and comments; `comment` says that a comment has begun. -/
def skipVerbose (comment : Bool) : List Char → List Char
  | [] => []
  | c :: rest =>
    if comment then skipVerbose (c != '\n') rest
    else if Text.isBlank c then skipVerbose false rest
    else if c = '#' then skipVerbose true rest
    else c :: rest

def skip (flags : Flags) (cs : List Char) : List Char :=
  if flags.verbose then skipVerbose false cs else cs

theorem length_skipVerbose_le (comment : Bool) (cs : List Char) :
    (skipVerbose comment cs).length ≤ cs.length := by
  fun_induction skipVerbose comment cs <;> simp_all <;> omega

theorem length_skip_le (flags : Flags) (cs : List Char) : (skip flags cs).length ≤ cs.length := by
  unfold skip
  split
  · exact length_skipVerbose_le false cs
  · exact Nat.le_refl _

/-- The characters at the front that pass a test, where what does not count is skipped after each of
them, and the rest. -/
def takeSigns (flags : Flags) (test : Char → Bool) : List Char → List Char × List Char
  | [] => ([], [])
  | c :: rest =>
    if test c then
      let (taken, rest) := takeSigns flags test (skip flags rest)
      (c :: taken, rest)
    else ([], c :: rest)
termination_by cs => cs.length
decreasing_by
  have := length_skip_le flags rest
  simp only [List.length_cons]
  omega

/-- So many characters at the front, where what does not count is skipped after each of them. -/
def takeExactly (flags : Flags) : Nat → List Char → Option (List Char × List Char)
  | 0, cs => some ([], cs)
  | _ + 1, [] => none
  | n + 1, c :: rest =>
    (takeExactly flags n (skip flags rest)).map fun (taken, rest) => (c :: taken, rest)

/-! ## Sets under flags -/

/-- The set, closed under change of case if that is ignored. -/
def Flags.fold (flags : Flags) (s : CharSet) : CharSet :=
  if !flags.ignoreCase then s else if flags.unicode then s.folded else s.foldedAscii

/-- The set of a class: closed under change of case, and then the complement if that is meant.  The
classes without Unicode have no complement, which would not be characters only. -/
def Flags.class? (flags : Flags) (negated : Bool) (s : CharSet) : Option CharSet :=
  if !negated then some (flags.fold s)
  else if flags.unicode then some (flags.fold s).compl
  else none

/-- The classes written with one letter. -/
def Flags.shortClass? (flags : Flags) (letter : Char) : Option CharSet :=
  let both (unicode ascii : CharSet) : CharSet := if flags.unicode then unicode else ascii
  let without (s : CharSet) : Option CharSet := if flags.unicode then some s.compl else none
  match letter with
  | 'd' => some (both ClassName.digits ClassName.asciiDigits)
  | 's' => some (both Text.blankSet ClassName.asciiBlank)
  | 'w' => some (both ClassName.word ClassName.asciiWord)
  | 'D' => without ClassName.digits
  | 'S' => without Text.blankSet
  | 'W' => without ClassName.word
  | _ => none

def Flags.dot (flags : Flags) : Option CharSet :=
  if !flags.unicode then none
  else if flags.dotAll then some .all
  else if flags.returns then some (CharSet.ofChars ['\r', '\n']).compl
  else some (CharSet.single '\n').compl

/-- The conditions of the two anchors. -/
def Flags.anchor (flags : Flags) (atStart : Bool) : Check :=
  match atStart, flags.multiline with
  | true, true => .lineStart flags.returns
  | true, false => .textStart
  | false, true => .lineEnd flags.returns
  | false, false => .textEnd

/-! ## Escapes -/

/-- What an escape stands for. -/
inductive Escape where
  | char (c : Char)
  /-- The character whose code is the value of a byte. -/
  | byte (c : Char)
  | set (s : CharSet)
  | check (k : Check)

/-- The characters that mean something on their own. -/
def metaCharacters : List Char :=
  ['\\', '.', '+', '*', '?', '(', ')', '|', '[', ']', '\x7b', '\x7d', '^', '$', '#', '&', '-', '~']

/-- A character that stands for itself after a backslash: ASCII, but no letter or digit. -/
def isEscapable (c : Char) : Bool :=
  c.toNat < 0x80 && !c.isAlphanum && c != '<' && c != '>'

def charOfCode? (code : Nat) : Option Char :=
  if h : code.isValidChar then some (Char.ofNatAux code h) else none

/-- The character whose code hexadecimal digits write; there has to be a digit. -/
def charOfDigits? (digits : List Char) : Option Char :=
  if digits.isEmpty then none
  else
    (digits.foldlM (fun acc c => (Text.hexDigitValue? c).map fun d => acc * 16 + d) 0).bind
      charOfCode?

/-- A character by its code, after the letter that says how many digits there are without braces, and
whether there were braces. -/
def codeEscape (flags : Flags) (digits : Nat) (cs : List Char) : Option (Bool × Char × List Char) :=
  match skip flags cs with
  | '\x7b' :: rest =>
    match takeSigns flags (· != '\x7d') (skip flags rest) with
    | (written, _ :: rest) => (charOfDigits? written).map (true, ·, rest)
    | _ => none
  | cs =>
    (takeExactly flags digits cs).bind fun (written, rest) =>
      (charOfDigits? written).map (false, ·, rest)

/-- A class of Unicode, after the letter that says whether it is meant or its complement. -/
def propertyEscape (flags : Flags) (negated : Bool) (cs : List Char) :
    Option (CharSet × List Char) := do
  let (name, rest) ← match skip flags cs with
    | '\x7b' :: rest =>
      match takeSigns flags (· != '\x7d') (skip flags rest) with
      | (name, _ :: rest) => pure (ClassName.set? name, rest)
      | _ => none
    | '\\' :: _ | [] => none
    | c :: rest => pure ((ClassName.plain? (ClassName.loose [c])).map (false, ·), rest)
  let (other, s) ← name
  if flags.unicode then (flags.class? (negated != other) s).map (·, rest) else none

/-- The word boundary with a name in braces, after the opening brace; nothing if the braces are
those of a repetition. -/
def namedBoundary (flags : Flags) (cs : List Char) : Option (Option (Check × List Char)) :=
  match takeSigns flags (fun c => c.isAlpha || c == '-') (skip flags cs) with
  | (_, []) => none
  | ([], _) => some none
  | (name, '\x7d' :: rest) =>
    let u := flags.unicode
    match String.ofList name with
    | "start" => some (some (.wordStart u, rest))
    | "end" => some (some (.wordEnd u, rest))
    | "start-half" => some (some (.noWordBefore u, rest))
    | "end-half" => some (some (.noWordAfter u, rest))
    | _ => none
  | _ => none

/-- An escape, after the backslash. -/
def escape (flags : Flags) (cs : List Char) : Option (Escape × List Char) :=
  match cs with
  | [] => none
  | c :: rest =>
    let char (c : Char) : Option (Escape × List Char) := some (.char c, rest)
    match c with
    | 'x' =>
      (codeEscape flags 2 rest).map fun (braces, c, rest) => (if braces then .char c else .byte c, rest)
    | 'u' => (codeEscape flags 4 rest).map fun (_, c, rest) => (.char c, rest)
    | 'U' => (codeEscape flags 8 rest).map fun (_, c, rest) => (.char c, rest)
    | 'p' => (propertyEscape flags false rest).map fun (s, rest) => (.set s, rest)
    | 'P' => (propertyEscape flags true rest).map fun (s, rest) => (.set s, rest)
    | 'a' => char (Char.ofNat 0x07)
    | 'f' => char (Char.ofNat 0x0c)
    | 'n' => char '\n'
    | 'r' => char '\r'
    | 't' => char '\t'
    | 'v' => char (Char.ofNat 0x0b)
    | 'A' => some (.check .textStart, rest)
    | 'z' => some (.check .textEnd, rest)
    | 'B' => some (.check (.noBoundary flags.unicode), rest)
    | '<' => some (.check (.wordStart flags.unicode), rest)
    | '>' => some (.check (.wordEnd flags.unicode), rest)
    | 'b' =>
      let plain : Escape := .check (.boundary flags.unicode)
      match rest with
      | '\x7b' :: inside =>
        match namedBoundary flags inside with
        | none => none
        | some none => some (plain, rest)
        | some (some (k, rest)) => some (.check k, rest)
      | _ => some (plain, rest)
    | _ =>
      match flags.shortClass? c with
      | some s => some (.set s, rest)
      | none => if metaCharacters.contains c || isEscapable c then char c else none

end Pattern

end RegisterMap
