import RegisterMap.Text.Runs

/-!
# Numbers and dates of TOML

A number or a date may stand wherever a document gives a value, and no setting takes one.  So only
its form and its range matter: each reader of this file answers with the text after what it reads,
or with nothing.  What a reader leaves over is for the surrounding value to refuse, so it may stop
early at whatever cannot belong to it.

Two limits need the value itself.  An integer has 64 bits with its sign, and a decimal fraction may
not round to positive infinity as a number of double precision; `isInfinite` decides that without
rounding, from the order of magnitude and one exact comparison.
-/

namespace RegisterMap

namespace Toml

/-! ## Digits -/

/-- The digits at the front of a text, and the text after them; an underscore that stands before a
digit goes with the digits. -/
def digitRun (isDigit : Char → Bool) : List Char → List Char × List Char
  | [] => ([], [])
  | c :: rest =>
    if isDigit c || (c == '_' && rest.head?.any isDigit) then
      let (digits, rest) := digitRun isDigit rest
      (if isDigit c then c :: digits else digits, rest)
    else ([], c :: rest)

/-- The number that digits write in a base. -/
def ofDigits (base : Nat) (digits : List Char) : Nat :=
  digits.foldl (fun n c => n * base + (Text.hexDigitValue? c).getD 0) 0

/-- Digits, with underscores between them. -/
def someDigits? (isDigit : Char → Bool) (cs : List Char) : Option (List Char × List Char) :=
  if cs.head?.any isDigit then some (digitRun isDigit cs) else none

/-- Exactly so many decimal digits, as a number. -/
def fixedDigits? (count : Nat) (cs : List Char) : Option (Nat × List Char) :=
  let digits := cs.take count
  if digits.length = count ∧ digits.all Char.isDigit then some (ofDigits 10 digits, cs.drop count)
  else none

/-- Two decimal digits that write a number between two limits. -/
def twoDigits? (low high : Nat) (cs : List Char) : Option (Nat × List Char) :=
  (fixedDigits? 2 cs).filter fun r => low ≤ r.1 && r.1 ≤ high

/-! ## Dates -/

/-- The number of days of a month. -/
def monthLength (year month : Nat) : Nat :=
  let isLeap := year % 4 = 0 ∧ (year % 100 ≠ 0 ∨ year % 400 = 0)
  if month = 2 then (if isLeap then 29 else 28)
  else if month = 4 ∨ month = 6 ∨ month = 9 ∨ month = 11 then 30
  else 31

/-- A day of the calendar. -/
def date? (cs : List Char) : Option (List Char) :=
  match fixedDigits? 4 cs with
  | some (year, '-' :: rest) =>
    match twoDigits? 1 12 rest with
    | some (month, '-' :: rest) => (twoDigits? 1 (monthLength year month) rest).map (·.2)
    | _ => none
  | _ => none

/-- The hour and the minute of a time. -/
def hourAndMinute? (cs : List Char) : Option (List Char) :=
  match twoDigits? 0 23 cs with
  | some (_, ':' :: rest) => (twoDigits? 0 59 rest).map (·.2)
  | _ => none

/-- A time of the day, with seconds, of which there may be a fraction; a second may be a leap
second. -/
def time? (cs : List Char) : Option (List Char) :=
  match hourAndMinute? cs with
  | some (':' :: rest) => (twoDigits? 0 60 rest).map fun (_, rest) =>
    match rest with
    | '.' :: d :: rest' => if d.isDigit then rest'.dropWhile Char.isDigit else rest
    | _ => rest
  | _ => none

/-- The text after an offset from universal time, if one is here. -/
def skipOffset (cs : List Char) : List Char :=
  match cs with
  | 'Z' :: rest | 'z' :: rest => rest
  | '+' :: rest | '-' :: rest => (hourAndMinute? rest).getD cs
  | _ => cs

/-- A day, a time of the day, or both, and then perhaps an offset. -/
def dateOrTime? (cs : List Char) : Option (List Char) :=
  match date? cs with
  | some ('T' :: rest) => some (((time? rest).map skipOffset).getD ('T' :: rest))
  | some ('t' :: rest) => some (((time? rest).map skipOffset).getD ('t' :: rest))
  | some (' ' :: rest) => some (((time? rest).map skipOffset).getD (' ' :: rest))
  | some rest => some rest
  | none => time? cs

/-! ## Integers -/

/-- The number has a minus sign, and the text after the sign, if there is one. -/
def takeSign : List Char → Bool × List Char
  | '-' :: rest => (true, rest)
  | '+' :: rest => (false, rest)
  | cs => (false, cs)

/-- The digits of a whole number: one zero, or digits that do not begin with a zero. -/
def wholeDigits? : List Char → Option (List Char × List Char)
  | '0' :: rest => some (['0'], rest)
  | cs => someDigits? Char.isDigit cs

/-- The least number that is too large for an integer. -/
def integerLimit : Nat := 0x8000000000000000

/-- An integer: in decimal with a sign, or without one in hexadecimal, octal or binary. -/
def integer? (cs : List Char) : Option (List Char) :=
  let based (base : Nat) (rest : List Char) : Option (List Char) :=
    let isDigit (c : Char) : Bool := (Text.hexDigitValue? c).any (· < base)
    match someDigits? isDigit rest with
    | some (digits, rest) => if ofDigits base digits < integerLimit then some rest else none
    | none => none
  match cs with
  | '0' :: 'x' :: rest => based 16 rest
  | '0' :: 'o' :: rest => based 8 rest
  | '0' :: 'b' :: rest => based 2 rest
  | _ =>
    let (negative, rest) := takeSign cs
    match wholeDigits? rest with
    | some (digits, rest) =>
      if ofDigits 10 digits < integerLimit + negative.toNat then some rest else none
    | none => none

/-! ## Decimal fractions -/

/-- The least number that rounds to infinity in double precision: it lies half a step above the
greatest finite number, which has 53 bits. -/
def infinityFrom : Nat := ((1 <<< 54) - 1) <<< 970

/-- The number that digits write, times a power of ten, rounds to infinity. -/
def isInfinite (digits : List Char) (exponent : Int) : Bool :=
  let digits := digits.dropWhile (· == '0')
  let order := digits.length + exponent
  if digits.isEmpty ∨ order < 309 then false
  else if order > 310 then true
  else
    let m := ofDigits 10 digits
    if exponent < 0 then infinityFrom * Nat.pow 10 exponent.natAbs ≤ m
    else infinityFrom ≤ m * Nat.pow 10 exponent.natAbs

/-- The digits after the point, if a fraction is here, and the text after it. -/
def takeFraction (cs : List Char) : List Char × List Char :=
  match cs with
  | '.' :: rest => (someDigits? Char.isDigit rest).getD ([], cs)
  | _ => ([], cs)

/-- The exponent of a number and the text after it, if one is here. -/
def exponent? : List Char → Option (Int × List Char)
  | c :: rest =>
    if c = 'e' ∨ c = 'E' then
      let (negative, rest) := takeSign rest
      (someDigits? Char.isDigit rest).map fun (digits, rest) =>
        let n : Int := ofDigits 10 digits
        (if negative then -n else n, rest)
    else none
  | [] => none

/-- A number with a fraction, an exponent or both; of the numbers that round to infinity only the
negative ones are numbers. -/
def decimal? (cs : List Char) : Option (List Char) := do
  let (negative, rest) := takeSign cs
  let (whole, rest) ← wholeDigits? rest
  let (fraction, rest) := takeFraction rest
  let (exponent, rest) ← match exponent? rest with
    | some r => some r
    | none => if fraction.isEmpty then none else some (0, rest)
  if !negative && isInfinite (whole ++ fraction) (exponent - fraction.length) then none
  else some rest

/-- Infinity, or what is no number, by name. -/
def named? (cs : List Char) : Option (List Char) :=
  match (takeSign cs).2 with
  | 'i' :: 'n' :: 'f' :: rest | 'n' :: 'a' :: 'n' :: rest => some rest
  | _ => none

/-! ## Scalars -/

/-- A number or a date.  Each form is tried before those that begin like it and are shorter. -/
def scalar? (cs : List Char) : Option (List Char) :=
  dateOrTime? cs <|> decimal? cs <|> named? cs <|> integer? cs

end Toml

end RegisterMap
