import CatalogGraph.Number.Double
import CatalogGraph.Text.Digits

/-!
# Scalars of TOML documents

Numbers, truth values, dates and times, which stand in a document without quotes. Underscores may
stand between digits. A number must not be beyond its range: a whole number fits one hundred and
twenty-eight bits, and a fraction is a finite double.
-/

namespace CatalogGraph.Toml

open Text

/-- A value that is written without quotes. -/
inductive Scalar where
  | boolean (b : Bool)
  | integer (n : Int)
  | float
  | datetime (text : String)
deriving DecidableEq, Repr

/-! ## Digits -/

/-- Digits without the underscores between them. -/
def digits? (allowed : Char → Bool) : List Char → Option (List Char)
  | [] => none
  | [c] => if allowed c then some [c] else none
  | c :: '_' :: rest => if allowed c then (digits? allowed rest).map (c :: ·) else none
  | c :: rest => if allowed c then (digits? allowed rest).map (c :: ·) else none

/-- Decimal digits that do not start with a zero, or a zero alone. -/
def wholeDigits? (cs : List Char) : Option (List Char) :=
  match digits? Char.isDigit cs with
  | some ('0' :: _ :: _) => none
  | found => found

/-- The sign of a number, if it has one, and the rest. -/
def sign (cs : List Char) : Bool × List Char :=
  match cs with
  | '-' :: rest => (true, rest)
  | '+' :: rest => (false, rest)
  | _ => (false, cs)

/-! ## Whole numbers -/

/-- The number that digits of a base write, the most significant first. -/
def readBase (base : Nat) (cs : List Char) : Nat :=
  cs.foldl (fun n c => n * base + (hexValue? c).getD 0) 0

/-- A whole number; one in another base than ten has no sign. -/
def integer? (cs : List Char) : Option Int :=
  let number? : Option Int := match cs with
    | '0' :: 'x' :: rest => (digits? isHexDigit rest).map fun ds => (readBase 16 ds : Int)
    | '0' :: 'o' :: rest =>
      (digits? (fun c => '0' ≤ c && c ≤ '7') rest).map fun ds => (readBase 8 ds : Int)
    | '0' :: 'b' :: rest =>
      (digits? (fun c => c == '0' || c == '1') rest).map fun ds => (readBase 2 ds : Int)
    | _ =>
      let (negative, rest) := sign cs
      (wholeDigits? rest).map fun ds =>
        if negative then -(readDecimal ds : Int) else (readDecimal ds : Int)
  number?.filter (Interval.mk (Interval.signed 128).low (Interval.unsigned 128).high).holds

/-! ## Fractions -/

/-- Whether `digits * 10 ^ exponent` is finite as a double. -/
def isFinite (digits : List Char) (exponent : Int) : Bool :=
  let n := readDecimal digits
  let top : Int := (decimal n).length + exponent
  n == 0 || top ≤ 308 ||
    (top == 309 && (Double.ofQuotient? false (n * Nat.pow 10 exponent.toNat)
      (Nat.pow 10 (-exponent).toNat)).isSome)

/-- The exponent of a number: nothing, or a letter, a sign and digits. -/
def exponent? : List Char → Option Int
  | [] => some 0
  | c :: rest =>
    if c = 'e' ∨ c = 'E' then
      let (negative, rest) := sign rest
      (digits? Char.isDigit rest).map fun ds =>
        if negative then -(readDecimal ds : Int) else (readDecimal ds : Int)
    else none

/-- A character of a group of digits. -/
def isDigitPart (c : Char) : Bool := c.isDigit || c == '_'

/-- Whether the text is a number with a fraction or an exponent, or one of the names of infinity
and of no number. -/
def isFloat (cs : List Char) : Bool :=
  let (_, rest) := sign cs
  if rest == "inf".toList || rest == "nan".toList then true
  else
    match wholeDigits? (rest.takeWhile isDigitPart), rest.dropWhile isDigitPart with
    | some whole, '.' :: more =>
      match digits? Char.isDigit (more.takeWhile isDigitPart),
          exponent? (more.dropWhile isDigitPart) with
      | some fraction, some e => isFinite (whole ++ fraction) (e - fraction.length)
      | _, _ => false
    | some whole, c :: more =>
      match exponent? (c :: more) with
      | some e => isFinite whole e
      | none => false
    | _, _ => false

/-! ## Dates and times -/

/-- The number of a fixed count of decimal digits, and the rest. -/
def fixedDigits? (count : Nat) (cs : List Char) : Option (Nat × List Char) :=
  let ds := cs.take count
  if ds.length = count ∧ ds.all Char.isDigit then some (readDecimal ds, cs.drop count) else none

/-- Whether a year has a twenty-ninth of February. -/
def isLeapYear (year : Nat) : Bool := year % 4 == 0 && (year % 100 != 0 || year % 400 == 0)

/-- How many days a month has. -/
def daysOfMonth (year month : Nat) : Nat :=
  if month = 2 then (if isLeapYear year then 29 else 28)
  else if [4, 6, 9, 11].contains month then 30
  else 31

/-- The text after a date. -/
def date? (cs : List Char) : Option (List Char) := do
  let (year, cs) ← fixedDigits? 4 cs
  let '-' :: cs := cs | none
  let (month, cs) ← fixedDigits? 2 cs
  let '-' :: cs := cs | none
  let (day, cs) ← fixedDigits? 2 cs
  if 1 ≤ month ∧ month ≤ 12 ∧ 1 ≤ day ∧ day ≤ daysOfMonth year month then some cs else none

/-- The text after the fraction of a second, if there is one. -/
def secondFraction? : List Char → Option (List Char)
  | '.' :: rest =>
    match rest.takeWhile Char.isDigit with
    | [] => none
    | _ => some (rest.dropWhile Char.isDigit)
  | cs => some cs

/-- The text after the seconds, if there are any. -/
def seconds? : List Char → Option (List Char)
  | ':' :: rest =>
    match fixedDigits? 2 rest with
    | some (second, rest) => if second ≤ 60 then secondFraction? rest else none
    | none => none
  | cs => some cs

/-- The text after an hour and a minute. -/
def hourMinute? (cs : List Char) : Option (List Char) := do
  let (hour, cs) ← fixedDigits? 2 cs
  let ':' :: cs := cs | none
  let (minute, cs) ← fixedDigits? 2 cs
  if hour ≤ 23 ∧ minute ≤ 59 then some cs else none

/-- The text after a time of day. -/
def time? (cs : List Char) : Option (List Char) := (hourMinute? cs).bind seconds?

/-- The text after an offset from universal time, if there is one. -/
def offset? : List Char → Option (List Char)
  | [] => some []
  | c :: rest =>
    if c = 'Z' ∨ c = 'z' then some rest
    else if c = '+' ∨ c = '-' then hourMinute? rest
    else none

/-- Whether the text is a date, a time of day, or both with or without an offset. -/
def isDatetime (cs : List Char) : Bool :=
  match date? cs with
  | some [] => true
  | some (c :: rest) =>
    (c == 'T' || c == 't' || c == ' ') && ((time? rest).bind offset?) == some []
  | none => time? cs == some []

/-! ## All scalars -/

/-- The value of a text without quotes. -/
def scalar? (cs : List Char) : Option Scalar :=
  if cs = "true".toList then some (.boolean true)
  else if cs = "false".toList then some (.boolean false)
  else
    match integer? cs with
    | some n => some (.integer n)
    | none =>
      if isFloat cs then some .float
      else if isDatetime cs then some (.datetime (String.ofList cs))
      else none

/-- Whether a character ends a text without quotes. -/
def endsScalar (c : Char) : Bool := " \t\r\n,=#[]\x7b\x7d\"\x27".toList.contains c

/-- The text of a scalar and the rest; one space may stand between a date and a time. -/
def scalarText (cs : List Char) : List Char × List Char :=
  let text := cs.takeWhile (!endsScalar ·)
  match date? text, cs.dropWhile (!endsScalar ·) with
  | some [], ' ' :: c :: rest =>
    if c.isDigit then
      (text ++ ' ' :: (c :: rest).takeWhile (!endsScalar ·), (c :: rest).dropWhile (!endsScalar ·))
    else (text, ' ' :: c :: rest)
  | _, rest => (text, rest)

end CatalogGraph.Toml
