import Signpost.Text.Blank
import Signpost.Text.Decimal
import Signpost.TextForm

/-!
# Calendar dates

Days of the proleptic Gregorian calendar, in the years from -262143 to 262142.

A date is written `year-month-day`, with two digits for month and day. The year has four digits, and
a sign and at least four outside 0 to 9999. Reading also takes white space before a number, before a
dash and at the end, a sign before any year, and single digits.
-/

namespace Signpost

namespace Calendar

/-- A leap year: divisible by 4, and by 400 if by 100. -/
def isLeap (year : Int) : Bool := year % 4 == 0 && (year % 100 != 0 || year % 400 == 0)

/-- The number of days of a month; there is no month outside 1 to 12. -/
def daysIn (year : Int) (month : Nat) : Nat :=
  match month with
  | 1 | 3 | 5 | 7 | 8 | 10 | 12 => 31
  | 4 | 6 | 9 | 11 => 30
  | 2 => if isLeap year then 29 else 28
  | _ => 0

/-- The calendar has this day. -/
def IsDay (year : Int) (month day : Nat) : Prop :=
  -262143 ≤ year ∧ year ≤ 262142 ∧ 1 ≤ day ∧ day ≤ daysIn year month

instance (year : Int) (month day : Nat) : Decidable (IsDay year month day) :=
  inferInstanceAs (Decidable (_ ∧ _))

end Calendar

/-- A day of the calendar. -/
structure Date where
  year : Int
  month : Nat
  day : Nat
  isDay : Calendar.IsDay year month day
deriving DecidableEq

namespace Date

/-- The day with these numbers, if the calendar has it. -/
def of? (year : Int) (month day : Nat) : Option Date :=
  if h : Calendar.IsDay year month day then some ⟨year, month, day, h⟩ else none

/-! ## Writing -/

/-- The digits of `n`, with zeros in front up to `width` digits. -/
def padded (width n : Nat) : List Char :=
  List.replicate (width - (Decimal.digits n).length) '0' ++ Decimal.digits n

/-- A year has four digits, and a sign in front outside 0 to 9999. -/
def writeYear (year : Int) : List Char :=
  if year < 0 then '-' :: padded 4 year.natAbs
  else if year ≤ 9999 then padded 4 year.natAbs
  else '+' :: padded 4 year.natAbs

/-- The written date. -/
def write (d : Date) : List Char :=
  writeYear d.year ++ '-' :: (padded 2 d.month ++ '-' :: padded 2 d.day)

/-! ## Reading -/

/-- The number at the front of a text, of at most `limit` digits, and the text after it. -/
def number? (limit : Nat) (cs : List Char) : Option (Nat × List Char) :=
  let run := (cs.take limit).takeWhile Char.isDigit
  (Decimal.value? run).map fun n => (n, cs.drop run.length)

/-- The year at the front of a text: any number of digits after a sign, at most four without. -/
def year? : List Char → Option (Int × List Char)
  | '-' :: cs => (number? cs.length cs).map fun (n, rest) => (-Int.ofNat n, rest)
  | '+' :: cs => (number? cs.length cs).map fun (n, rest) => (Int.ofNat n, rest)
  | cs => (number? 4 cs).map fun (n, rest) => (Int.ofNat n, rest)

/-- The text after a dash, which may have white space in front. -/
def dash? (cs : List Char) : Option (List Char) :=
  match skipBlanks cs with
  | '-' :: rest => some rest
  | _ => none

/-- The date that a text stands for. -/
def read? (cs : List Char) : Option Date := do
  let (year, cs) ← year? (skipBlanks cs)
  let cs ← dash? cs
  let (month, cs) ← number? 2 (skipBlanks cs)
  let cs ← dash? cs
  let (day, cs) ← number? 2 (skipBlanks cs)
  if skipBlanks cs = [] then of? year month day else none

instance : TextForm Date where
  write d := String.ofList d.write
  read? text := read? text.toList

end Date

end Signpost
