import VmSupport.Decimal.Natural
import VmSupport.Toml.Text
import VmSupport.Toml.Value

/-!
# Reading numbers and dates

A number in decimal has no leading zeros; single underscores may stand between its digits. A point
or an exponent makes it a floating-point number, and digits must stand on both sides of the point.
Integers are signed words; hexadecimal, octal and binary ones have a marker, no sign, and may have
leading zeros. A floating-point number that is too large is not read, unless it is negative, which
reads as the negative infinity.

A date needs a year of four digits, a month, and a day that the month has; a time needs hours,
minutes and seconds, and may have a fraction. A date may be followed by a time, and that by an
offset.
-/

namespace VmSupport.Toml

/-! ## Digits -/

/-- Reads digits with single underscores between them, behind a first digit. -/
def moreDigits (isDigit : Char → Bool) : List Char → List Char × List Char
  | '_' :: c :: r =>
    if isDigit c then
      let (ds, rest) := moreDigits isDigit r
      (c :: ds, rest)
    else
      ([], '_' :: c :: r)
  | c :: r =>
    if isDigit c then
      let (ds, rest) := moreDigits isDigit r
      (c :: ds, rest)
    else
      ([], c :: r)
  | [] => ([], [])

/-- Reads digits with single underscores between them. -/
def someDigits (isDigit : Char → Bool) : Reader (List Char)
  | c :: r =>
    if isDigit c then
      let (ds, rest) := moreDigits isDigit r
      some (c :: ds, rest)
    else
      none
  | [] => none

/-- Takes a sign off the front and says whether it is a minus. -/
def dropSign : List Char → Bool × List Char
  | '-' :: r => (true, r)
  | '+' :: r => (false, r)
  | r => (false, r)

/-- Reads a decimal integer without leading zeros: its sign and its digits. -/
def plainInteger (s : List Char) : Option ((Bool × List Char) × List Char) :=
  let (negative, r) := dropSign s
  match r with
  | '0' :: rest => some ((negative, ['0']), rest)
  | _ => (someDigits Char.isDigit r).map fun (ds, rest) => ((negative, ds), rest)

/-! ## Integers -/

/-- One more than the largest integer. -/
def integerLimit : Int := Int.pow 2 63

/-- An integer, unless it is no signed word. -/
def boundedInteger (n : Int) : Option Value :=
  if -integerLimit ≤ n ∧ n < integerLimit then some (.integer n) else none

/-- The number that digits in a base stand for. -/
def numberInBase (base : Nat) (ds : List Char) : Nat :=
  ds.foldl (fun n c => base * n + (hexValue? c).getD 0) 0

/-- Reads the digits of an integer in a base, behind its marker. -/
def markedInteger (base : Nat) (isDigit : Char → Bool) : Reader Value := fun s =>
  match someDigits isDigit s with
  | none => none
  | some (ds, rest) => (boundedInteger (numberInBase base ds)).map (·, rest)

/-- Reads an integer. -/
def integer : Reader Value
  | '0' :: 'x' :: r => markedInteger 16 (fun c => (hexValue? c).isSome) r
  | '0' :: 'o' :: r => markedInteger 8 (fun c => decide ('0' ≤ c ∧ c ≤ '7')) r
  | '0' :: 'b' :: r => markedInteger 2 (fun c => c == '0' || c == '1') r
  | s =>
    match plainInteger s with
    | none => none
    | some ((negative, ds), rest) =>
      let n : Int := Decimal.value ds
      (boundedInteger (if negative then -n else n)).map (·, rest)

/-! ## Floating-point numbers -/

/-- Reads the digits behind a point. -/
def fraction : Reader (List Char)
  | '.' :: r => someDigits Char.isDigit r
  | _ => none

/-- Reads an exponent. -/
def exponent : Reader Int
  | c :: r =>
    if c = 'e' ∨ c = 'E' then
      let (negative, r) := dropSign r
      (someDigits Char.isDigit r).map fun (ds, rest) =>
        let n : Int := Decimal.value ds
        (if negative then -n else n, rest)
    else
      none
  | [] => none

/-- The floating-point number for a decimal, unless it is too large. -/
def boundedFloat (negative : Bool) (coefficient : Nat) (power : Int) : Option Value :=
  match Decimal.Binary64.ofDecimal negative coefficient power with
  | .infinite false => none
  | x => some (.float x)

/-- Reads a floating-point number in decimal. -/
def decimalFloat (s : List Char) : Option (Value × List Char) :=
  match plainInteger s with
  | none => none
  | some ((negative, whole), r) =>
    match exponent r with
    | some (power, rest) => (boundedFloat negative (Decimal.value whole) power).map (·, rest)
    | none =>
      match fraction r with
      | none => none
      | some (part, r') =>
        let coefficient := Decimal.value (whole ++ part)
        match exponent r' with
        | some (power, rest) =>
          (boundedFloat negative coefficient (power - part.length)).map (·, rest)
        | none => (boundedFloat negative coefficient (-part.length)).map (·, r')

/-- Reads an infinity or the number that is none. -/
def namedFloat (s : List Char) : Option (Value × List Char) :=
  let (negative, r) := dropSign s
  match r with
  | 'i' :: 'n' :: 'f' :: rest => some (.float (.infinite negative), rest)
  | 'n' :: 'a' :: 'n' :: rest => some (.float .nan, rest)
  | _ => none

/-! ## Dates and times -/

/-- Reads two digits as a number in a closed range. -/
def twoDigits (low high : Nat) : Reader Nat
  | a :: b :: r =>
    if a.isDigit ∧ b.isDigit then
      let n := Decimal.value [a, b]
      if low ≤ n ∧ n ≤ high then some (n, r) else none
    else
      none
  | _ => none

/-- Whether a year has a 29th of February. -/
def isLeapYear (year : Nat) : Bool :=
  year % 4 == 0 && (year % 100 != 0 || year % 400 == 0)

/-- The number of days of a month. -/
def daysOfMonth (year month : Nat) : Nat :=
  if month = 2 then (if isLeapYear year then 29 else 28)
  else if month = 4 ∨ month = 6 ∨ month = 9 ∨ month = 11 then 30
  else 31

/-- Reads a date and answers what follows it. -/
def calendarDate : List Char → Option (List Char)
  | a :: b :: c :: d :: '-' :: r =>
    if [a, b, c, d].all Char.isDigit then
      match twoDigits 1 12 r with
      | some (month, '-' :: r') =>
        (twoDigits 1 (daysOfMonth (Decimal.value [a, b, c, d]) month) r').map (·.2)
      | _ => none
    else
      none
  | _ => none

/-- Drops a fraction of a second. -/
def dropFraction (s : List Char) : List Char :=
  match s with
  | '.' :: c :: r => if c.isDigit then r.dropWhile Char.isDigit else s
  | _ => s

/-- Reads a time of day and answers what follows it. -/
def timeOfDay (s : List Char) : Option (List Char) :=
  match twoDigits 0 23 s with
  | some (_, ':' :: r) =>
    match twoDigits 0 59 r with
    | some (_, ':' :: r') => (twoDigits 0 60 r').map fun (_, rest) => dropFraction rest
    | _ => none
  | _ => none

/-- Drops an offset, if there is one. -/
def dropOffset (s : List Char) : List Char :=
  match s with
  | 'Z' :: r => r
  | 'z' :: r => r
  | c :: r =>
    if c = '+' ∨ c = '-' then
      match twoDigits 0 23 r with
      | some (_, ':' :: r') => ((twoDigits 0 59 r').map (·.2)).getD s
      | _ => s
    else
      s
  | [] => s

/-- Drops a time of day with its offset behind a date, if there is one. -/
def dropTime (s : List Char) : List Char :=
  match s with
  | c :: r =>
    if c = 'T' ∨ c = 't' ∨ c = ' ' then ((timeOfDay r).map dropOffset).getD s else s
  | [] => s

/-- Reads a date, a time, or both. -/
def date (s : List Char) : Option (Value × List Char) :=
  match calendarDate s with
  | some r => some (.date, dropTime r)
  | none => (timeOfDay s).map (.date, ·)

/-! ## Any of them -/

/-- Reads a date or a number. -/
def numeric (s : List Char) : Option (Value × List Char) :=
  date s <|> decimalFloat s <|> namedFloat s <|> integer s

end VmSupport.Toml
