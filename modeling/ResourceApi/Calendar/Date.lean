import ResourceApi.Number.Digits
import ResourceApi.Text.Blank

/-!
# Calendar dates

Dates of the proleptic Gregorian calendar, which extends today's leap-year rule to every year, from
the year -262143 to the year 262142.

## Main definitions

- `Date` — a year, a month and a day that exist together
- `Date.compare` — the order of dates
- `Date.text` — `YYYY-MM-DD`; years outside `0`–`9999` carry a sign
- `Date.read` — the reader of filter values
- `Date.readSpaced` — the reader of request bodies, which also allows blanks around the parts
- `Date.next`, `Date.previous` — the neighbouring days
-/

namespace ResourceApi

def minYear : Int := -262143

def maxYear : Int := 262142

/-- Every fourth year is a leap year, except centuries that 400 does not divide. -/
def isLeapYear (year : Int) : Bool := (year % 4 == 0 && year % 100 != 0) || year % 400 == 0

/-- The number of days of a month; zero for a number that is no month. -/
def daysInMonth (year : Int) (month : Nat) : Nat :=
  match month with
  | 1 | 3 | 5 | 7 | 8 | 10 | 12 => 31
  | 4 | 6 | 9 | 11 => 30
  | 2 => if isLeapYear year then 29 else 28
  | _ => 0

/-- Whether a year, a month and a day are a date of the calendar. -/
def isDate (year : Int) (month day : Nat) : Bool :=
  minYear ≤ year && year ≤ maxYear && 1 ≤ day && day ≤ daysInMonth year month

/-- A date of the calendar. -/
structure Date where
  /-- The year; the year before year 1 is year 0. -/
  year : Int
  /-- The month, counted from 1. -/
  month : Nat
  /-- The day, counted from 1. -/
  day : Nat
  /-- The three exist together. -/
  valid : isDate year month day = true
deriving DecidableEq

namespace Date

/-- The date with the given parts, if there is one. -/
def ofParts? (year : Int) (month day : Nat) : Option Date :=
  if h : isDate year month day then some ⟨year, month, day, h⟩ else none

def compare (a b : Date) : Ordering :=
  (Ord.compare a.year b.year).then ((Ord.compare a.month b.month).then (Ord.compare a.day b.day))

def next (d : Date) : Option Date :=
  if d.day < daysInMonth d.year d.month then ofParts? d.year d.month (d.day + 1)
  else if d.month < 12 then ofParts? d.year (d.month + 1) 1
  else ofParts? (d.year + 1) 1 1

def previous (d : Date) : Option Date :=
  if 1 < d.day then ofParts? d.year d.month (d.day - 1)
  else if 1 < d.month then ofParts? d.year (d.month - 1) (daysInMonth d.year (d.month - 1))
  else ofParts? (d.year - 1) 12 31

/-- Digits filled up with leading zeros. -/
def padded (width n : Nat) : List Char :=
  let digits := Number.natText n
  List.replicate (width - digits.length) '0' ++ digits

/-- A year: four digits, and a sign outside `0`–`9999`. -/
def yearText (year : Int) : List Char :=
  if 0 ≤ year ∧ year ≤ 9999 then padded 4 year.natAbs
  else (if year < 0 then '-' else '+') :: padded 4 year.natAbs

def chars (d : Date) : List Char :=
  yearText d.year ++ '-' :: padded 2 d.month ++ '-' :: padded 2 d.day

def text (d : Date) : String := String.ofList d.chars

/-- The digits at the start of a text, at most `limit` of them, and the text behind them. -/
def takeDigits (limit : Nat) (cs : List Char) : List Char × List Char :=
  let digits := (cs.take limit).takeWhile Char.isDigit
  (digits, cs.drop digits.length)

/-- Reads digits as a number, at least one. -/
def scanNat (limit : Nat) (cs : List Char) : Option (Nat × List Char) :=
  let (digits, rest) := takeDigits limit cs
  (Number.readNat digits).map fun n => (n, rest)

/-- Reads a year after optional blanks: up to four digits, or any number of them after a sign. -/
def scanYear (cs : List Char) : Option (Int × List Char) :=
  match Text.trimStart cs with
  | '-' :: ds => (scanNat ds.length ds).map fun (n, rest) => (-(n : Int), rest)
  | '+' :: ds => (scanNat ds.length ds).map fun (n, rest) => ((n : Int), rest)
  | ds => (scanNat 4 ds).map fun (n, rest) => ((n : Int), rest)

/-- Reads a month or a day after optional blanks: one or two digits. -/
def scanField (cs : List Char) : Option (Nat × List Char) := scanNat 2 (Text.trimStart cs)

def expect (c : Char) : List Char → Option (List Char)
  | [] => none
  | x :: xs => if x = c then some xs else none

/-- Reads a whole date; `gap` says what may be skipped behind each number. -/
def readWith (gap : List Char → List Char) (cs : List Char) : Option Date := do
  let (year, cs) ← scanYear cs
  let cs ← expect '-' (gap cs)
  let (month, cs) ← scanField cs
  let cs ← expect '-' (gap cs)
  let (day, cs) ← scanField cs
  if (gap cs).isEmpty then ofParts? year month day else none

/-- Reads a date whose dashes and end follow the numbers at once. -/
def read (cs : List Char) : Option Date := readWith id cs

/-- Reads a date that may have blanks behind its numbers. -/
def readSpaced (cs : List Char) : Option Date := readWith Text.trimStart cs

end Date

end ResourceApi
