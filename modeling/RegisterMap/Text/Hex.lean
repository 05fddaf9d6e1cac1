/-!
# Numbers in hexadecimal

The lowercase hexadecimal digits of a number, without leading zeros, and the two ways they are
shown: with the marker `0x` in messages, and in groups of four in emitted constants.
-/

namespace RegisterMap.Text

/-- The lowercase hexadecimal digit of a number below 16. -/
def hexDigit (n : Nat) : Char :=
  if n < 10 then Char.ofNat ('0'.toNat + n) else Char.ofNat ('a'.toNat + (n - 10))

/-- The hexadecimal digits of a number, most significant first; zero has one digit. -/
def hexDigits (n : Nat) : List Char :=
  if n < 16 then [hexDigit n] else hexDigits (n / 16) ++ [hexDigit (n % 16)]
termination_by n

/-- A number as `0x` and its hexadecimal digits. -/
def hex (n : Nat) : String := String.ofList ('0' :: 'x' :: hexDigits n)

/-- Inserts an underscore before every group of four digits counted from the end, except at the
front.  The argument lists the digits from the last to the first. -/
def groupDigits : List Char → List Char
  | a :: b :: c :: d :: rest@(_ :: _) => a :: b :: c :: d :: '_' :: groupDigits rest
  | digits => digits

/-- An integer constant: a single decimal digit up to nine, and otherwise `0x` with the hexadecimal
digits in groups of four. -/
def constant (n : Nat) : String :=
  if n ≤ 9 then toString n
  else String.ofList ('0' :: 'x' :: (groupDigits (hexDigits n).reverse).reverse)

/-- A list in brackets, its items separated by commas. -/
def bracketed (items : List String) : String := "[" ++ String.intercalate ", " items ++ "]"

end RegisterMap.Text
