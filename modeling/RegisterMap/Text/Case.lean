import RegisterMap.Text.CharSet

/-!
# Case of characters

A case mapping gives every character a spelling, and is given by runs.  The uppercase mapping below is
that of Unicode 17; the spelling may be several characters long (the sharp s becomes two letters).
-/

namespace RegisterMap.Text

/-- What a case mapping does on a run of code points. -/
inductive CaseRun where
  /-- Every character of the run stays as it is. -/
  | same
  /-- Every code point of the run moves by the same amount. -/
  | shift (delta : Int)
  /-- The characters of the run are all spelled by these code points. -/
  | spelled (codes : List Nat)
deriving Repr, Inhabited

namespace CaseRun

/-- Reads the word of one run: `n` for unchanged code points, `n+d` and `n-d` for a move by `d`,
and `=a,b` for the spelling of a single code point, all numbers in hexadecimal. -/
def read (word : List Char) : Nat × CaseRun :=
  match word with
  | '=' :: codes => (1, .spelled (((String.ofList codes).splitOn ",").map fun w => hexNumber w.toList))
  | _ =>
    let length := hexNumber (word.takeWhile fun c => c != '+' && c != '-')
    match word.dropWhile fun c => c != '+' && c != '-' with
    | '+' :: d => (length, .shift (hexNumber d))
    | '-' :: d => (length, .shift (-(hexNumber d : Int)))
    | _ => (length, .same)

/-- The spelling that a run gives to one of its characters. -/
def apply (run : CaseRun) (c : Char) : List Char :=
  match run with
  | .same => [c]
  | .shift delta => [Char.ofNat (c.toNat + delta).toNat]
  | .spelled codes => codes.map Char.ofNat

end CaseRun

/-- The spelling of a character by a case mapping given by runs; characters beyond the table stay. -/
def mapCase (table : Runs CaseRun) (c : Char) : List Char := ((table.at? c.toNat).getD .same).apply c

/-! ## Uppercase -/

/-- The runs of the uppercase mapping. -/
def uppercaseLines : List String :=
  ["61 1a-20 3a 1+2e7 29 =53,53 17-20 1 7-20 1+79 1 1-1 1 1-1 1 1-1 1 1-1 1 1-1 1 1-1 1 1-1 1 1-1",
   "1 1-1 1 1-1 1 1-1 1 1-1 1 1-1 1 1-1 1 1-1 1 1-1 1 1-1 1 1-1 1 1-1 1 1-1 1 1-1 1 1-1 1 1-1 1",
   "1-1 1 1-e8 1 1-1 1 1-1 1 1-1 2 1-1 1 1-1 1 1-1 1 1-1 1 1-1 1 1-1 1 1-1 1 1-1 =2bc,4e 1 1-1 1",
   "1-1 1 1-1 1 1-1 1 1-1 1 1-1 1 1-1 1 1-1 1 1-1 1 1-1 1 1-1 1 1-1 1 1-1 1 1-1 1 1-1 1 1-1 1 1-1",
   "1 1-1 1 1-1 1 1-1 1 1-1 1 1-1 1 1-1 2 1-1 1 1-1 1 1-1 1-12c 1+c3 2 1-1 1 1-1 2 1-1 3 1-1 5",
   "1-1 2 1+61 3 1-1 1+a3 1+a641 2 1+82 2 1-1 1 1-1 1 1-1 2 1-1 4 1-1 2 1-1 3 1-1 1 1-1 2 1-1 3",
   "1-1 1 1+38 5 1-1 1-2 1 1-1 1-2 1 1-1 1-2 1 1-1 1 1-1 1 1-1 1 1-1 1 1-1 1 1-1 1 1-1 1 1-1 1-4f",
   "1 1-1 1 1-1 1 1-1 1 1-1 1 1-1 1 1-1 1 1-1 1 1-1 1 1-1 =4a,30c 1 1-1 1-2 1 1-1 3 1-1 1 1-1 1",
   "1-1 1 1-1 1 1-1 1 1-1 1 1-1 1 1-1 1 1-1 1 1-1 1 1-1 1 1-1 1 1-1 1 1-1 1 1-1 1 1-1 1 1-1 1 1-1",
   "1 1-1 1 1-1 3 1-1 1 1-1 1 1-1 1 1-1 1 1-1 1 1-1 1 1-1 1 1-1 1 1-1 8 1-1 2 2+2a3f 1 1-1 4 1-1",
   "1 1-1 1 1-1 1 1-1 1 1-1 1+2a1f 1+2a1c 1+2a1e 1-d2 1-ce 1 2-cd 1 1-ca 1 1-cb 1+a54f 3 1-cd",
   "1+a54b 1 1-cf 1+a567 1+a528 1+a544 1 1-d1 1-d3 1+a544 1+29f7 1+a541 2 1-d3 1 1+29fd 1-d5 2",
   "1-d6 7 1+29e7 2 1-da 1 1+a543 1-da 3 1+a52a 1-da 1-45 2-d9 1-47 5 1-db a 1+a515 1+a512 a6",
   "1+54 2b 1-1 1 1-1 3 1-1 3 3+82 12 =399,308,301 1b 1-26 3-25 =3a5,308,301 11-20 1-1f 9-20 1-40",
   "2-3f 1 1-3e 1-39 3 1-2f 1-36 1-8 1 1-1 1 1-1 1 1-1 1 1-1 1 1-1 1 1-1 1 1-1 1 1-1 1 1-1 1 1-1",
   "1 1-1 1 1-1 1-56 1-50 1+7 1-74 1 1-60 2 1-1 2 1-1 34 20-20 10-50 1 1-1 1 1-1 1 1-1 1 1-1 1",
   "1-1 1 1-1 1 1-1 1 1-1 1 1-1 1 1-1 1 1-1 1 1-1 1 1-1 1 1-1 1 1-1 1 1-1 1 1-1 9 1-1 1 1-1 1 1-1",
   "1 1-1 1 1-1 1 1-1 1 1-1 1 1-1 1 1-1 1 1-1 1 1-1 1 1-1 1 1-1 1 1-1 1 1-1 1 1-1 1 1-1 1 1-1 1",
   "1-1 1 1-1 1 1-1 1 1-1 1 1-1 1 1-1 1 1-1 1 1-1 1 1-1 2 1-1 1 1-1 1 1-1 1 1-1 1 1-1 1 1-1 1 1-1",
   "1-f 1 1-1 1 1-1 1 1-1 1 1-1 1 1-1 1 1-1 1 1-1 1 1-1 1 1-1 1 1-1 1 1-1 1 1-1 1 1-1 1 1-1 1 1-1",
   "1 1-1 1 1-1 1 1-1 1 1-1 1 1-1 1 1-1 1 1-1 1 1-1 1 1-1 1 1-1 1 1-1 1 1-1 1 1-1 1 1-1 1 1-1 1",
   "1-1 1 1-1 1 1-1 1 1-1 1 1-1 1 1-1 1 1-1 1 1-1 1 1-1 1 1-1 1 1-1 1 1-1 1 1-1 1 1-1 1 1-1 1 1-1",
   "1 1-1 1 1-1 31 26-30 =535,552 b48 2b+bc0 2 3+bc0 2f8 6-8 882 1-186e 1-186d 1-1864 2-1862",
   "1-1863 1-185c 1-1825 1+89c2 1 1-1 ee 1+8a04 3 1+ee6 10 1+8a38 72 1-1 1 1-1 1 1-1 1 1-1 1 1-1",
   "1 1-1 1 1-1 1 1-1 1 1-1 1 1-1 1 1-1 1 1-1 1 1-1 1 1-1 1 1-1 1 1-1 1 1-1 1 1-1 1 1-1 1 1-1 1",
   "1-1 1 1-1 1 1-1 1 1-1 1 1-1 1 1-1 1 1-1 1 1-1 1 1-1 1 1-1 1 1-1 1 1-1 1 1-1 1 1-1 1 1-1 1 1-1",
   "1 1-1 1 1-1 1 1-1 1 1-1 1 1-1 1 1-1 1 1-1 1 1-1 1 1-1 1 1-1 1 1-1 1 1-1 1 1-1 1 1-1 1 1-1 1",
   "1-1 1 1-1 1 1-1 1 1-1 1 1-1 1 1-1 1 1-1 1 1-1 1 1-1 1 1-1 1 1-1 1 1-1 1 1-1 1 1-1 1 1-1 1 1-1",
   "1 1-1 1 1-1 1 1-1 1 1-1 1 1-1 1 1-1 1 1-1 1 1-1 =48,331 =54,308 =57,30a =59,30a =41,2be 1-3b",
   "5 1-1 1 1-1 1 1-1 1 1-1 1 1-1 1 1-1 1 1-1 1 1-1 1 1-1 1 1-1 1 1-1 1 1-1 1 1-1 1 1-1 1 1-1 1",
   "1-1 1 1-1 1 1-1 1 1-1 1 1-1 1 1-1 1 1-1 1 1-1 1 1-1 1 1-1 1 1-1 1 1-1 1 1-1 1 1-1 1 1-1 1 1-1",
   "1 1-1 1 1-1 1 1-1 1 1-1 1 1-1 1 1-1 1 1-1 1 1-1 1 1-1 1 1-1 1 1-1 1 1-1 1 1-1 1 1-1 1 1-1 1",
   "1-1 1 1-1 8+8 8 6+8 a 8+8 8 8+8 8 6+8 a =3a5,313 1+8 =3a5,313,300 1+8 =3a5,313,301 1+8",
   "=3a5,313,342 1+8 8 8+8 8 2+4a 4+56 2+64 2+80 2+70 2+7e 2 =1f08,399 =1f09,399 =1f0a,399",
   "=1f0b,399 =1f0c,399 =1f0d,399 =1f0e,399 =1f0f,399 =1f08,399 =1f09,399 =1f0a,399 =1f0b,399",
   "=1f0c,399 =1f0d,399 =1f0e,399 =1f0f,399 =1f28,399 =1f29,399 =1f2a,399 =1f2b,399 =1f2c,399",
   "=1f2d,399 =1f2e,399 =1f2f,399 =1f28,399 =1f29,399 =1f2a,399 =1f2b,399 =1f2c,399 =1f2d,399",
   "=1f2e,399 =1f2f,399 =1f68,399 =1f69,399 =1f6a,399 =1f6b,399 =1f6c,399 =1f6d,399 =1f6e,399",
   "=1f6f,399 =1f68,399 =1f69,399 =1f6a,399 =1f6b,399 =1f6c,399 =1f6d,399 =1f6e,399 =1f6f,399 2+8",
   "=1fba,399 =391,399 =386,399 1 =391,342 =391,342,399 4 =391,399 1 1-1c25 3 =1fca,399 =397,399",
   "=389,399 1 =397,342 =397,342,399 4 =397,399 3 2+8 =399,308,300 =399,308,301 2 =399,342",
   "=399,308,342 8 2+8 =3a5,308,300 =3a5,308,301 =3a1,313 1+7 =3a5,342 =3a5,308,342 a =1ffa,399",
   "=3a9,399 =38f,399 1 =3a9,342 =3a9,342,399 4 =3a9,399 151 1-1c 21 10-10 4 1-1 34b 1a-1a 746",
   "30-30 1 1-1 3 1-2a2b 1-2a28 1 1-1 1 1-1 1 1-1 6 1-1 2 1-1 a 1-1 1 1-1 1 1-1 1 1-1 1 1-1 1 1-1",
   "1 1-1 1 1-1 1 1-1 1 1-1 1 1-1 1 1-1 1 1-1 1 1-1 1 1-1 1 1-1 1 1-1 1 1-1 1 1-1 1 1-1 1 1-1 1",
   "1-1 1 1-1 1 1-1 1 1-1 1 1-1 1 1-1 1 1-1 1 1-1 1 1-1 1 1-1 1 1-1 1 1-1 1 1-1 1 1-1 1 1-1 1 1-1",
   "1 1-1 1 1-1 1 1-1 1 1-1 1 1-1 1 1-1 1 1-1 1 1-1 1 1-1 1 1-1 1 1-1 1 1-1 1 1-1 8 1-1 1 1-1 4",
   "1-1 c 26-1c60 1 1-1c60 5 1-1c60 7913 1-1 1 1-1 1 1-1 1 1-1 1 1-1 1 1-1 1 1-1 1 1-1 1 1-1 1",
   "1-1 1 1-1 1 1-1 1 1-1 1 1-1 1 1-1 1 1-1 1 1-1 1 1-1 1 1-1 1 1-1 1 1-1 1 1-1 1 1-1 13 1-1 1",
   "1-1 1 1-1 1 1-1 1 1-1 1 1-1 1 1-1 1 1-1 1 1-1 1 1-1 1 1-1 1 1-1 1 1-1 1 1-1 87 1-1 1 1-1 1",
   "1-1 1 1-1 1 1-1 1 1-1 1 1-1 3 1-1 1 1-1 1 1-1 1 1-1 1 1-1 1 1-1 1 1-1 1 1-1 1 1-1 1 1-1 1 1-1",
   "1 1-1 1 1-1 1 1-1 1 1-1 1 1-1 1 1-1 1 1-1 1 1-1 1 1-1 1 1-1 1 1-1 1 1-1 1 1-1 1 1-1 1 1-1 1",
   "1-1 1 1-1 1 1-1 1 1-1 1 1-1 a 1-1 1 1-1 2 1-1 1 1-1 1 1-1 1 1-1 1 1-1 4 1-1 4 1-1 1 1-1 1+30",
   "2 1-1 1 1-1 1 1-1 1 1-1 1 1-1 1 1-1 1 1-1 1 1-1 1 1-1 1 1-1 b 1-1 1 1-1 1 1-1 1 1-1 1 1-1 1",
   "1-1 1 1-1 1 1-1 4 1-1 1 1-1 2 1-1 1 1-1 1 1-1 1 1-1 1 1-1 1 1-1 1 1-1 1 1-1 1a 1-1 35c 1-3a0",
   "1c 50-97d0 4f40 =46,46 =46,49 =46,4c =46,46,49 =46,46,4c =53,54 =53,54 c =544,546 =544,535",
   "=544,53b =54e,546 =544,53d 429 1a-20 4cd 28-28 88 24-28 9b b-27 1 f-27 1 7-27 1 2-27 703",
   "33-40 7d 16-20 b3a 20-20 5580 20-20 3b 19-1b 7a4e 22-22 f16bc"]

/-- The uppercase mapping as a function by runs. -/
def uppercaseTable : Runs CaseRun := (tableWords uppercaseLines).map CaseRun.read

/-- The uppercase spelling of a text, character by character. -/
def uppercase (text : String) : String :=
  String.ofList (text.toList.flatMap (mapCase uppercaseTable))

/-- The characters that the uppercase mapping changes. -/
def uppercasedSet : CharSet :=
  .ofRanges (uppercaseTable.ranges fun run => match run with
    | .same => false
    | _ => true)

end RegisterMap.Text
