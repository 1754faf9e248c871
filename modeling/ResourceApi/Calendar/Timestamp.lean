import ResourceApi.Calendar.Date

/-!
# Timestamps

Moments in UTC with nanoseconds, read from RFC 3339 text with any offset. A leap second is the last
second of its minute with a nanosecond count of a thousand million or more, so that it sorts behind
every other moment of that second and before the next minute.

## Main definitions

- `Timestamp` — a date, a second of that day and nanoseconds
- `Timestamp.compare` — the order of moments
- `Timestamp.read` — RFC 3339: a four-digit year, `T`, `t` or a space, and a zone
- `Timestamp.text` — the text in UTC, with as few groups of three fraction digits as are exact
-/

namespace ResourceApi

/-- A moment in UTC. -/
structure Timestamp where
  /-- The date in UTC. -/
  date : Date
  /-- The second of the day, below 86400. -/
  second : Nat
  /-- Nanoseconds; from a thousand million on they belong to a leap second. -/
  nano : Nat
deriving DecidableEq

namespace Timestamp

/-- The order of moments. -/
def compare (a b : Timestamp) : Ordering :=
  (a.date.compare b.date).then ((Ord.compare a.second b.second).then (Ord.compare a.nano b.nano))

/-- A time of day and the zone it is given in. -/
structure Clock where
  /-- The second of the local day. -/
  second : Nat
  /-- Nanoseconds; a leap second counts on from a thousand million. -/
  nano : Nat
  /-- Minutes that the local time is ahead of UTC. -/
  offset : Int

/-- Reads a number of exactly `width` digits that is at most `limit`. -/
def scanFixed (width limit : Nat) (cs : List Char) : Option (Nat × List Char) :=
  let (digits, rest) := Date.takeDigits width cs
  if digits.length = width then
    let n := Nat.ofDigitChars 10 digits 0
    if n ≤ limit then some (n, rest) else none
  else none

/-- Reads the fraction of a second behind a point, cut to nanoseconds; no point means zero. -/
def scanFraction : List Char → Option (Nat × List Char)
  | '.' :: cs =>
    let digits := cs.takeWhile Char.isDigit
    if digits.isEmpty then none
    else
      let kept := (digits ++ List.replicate 9 '0').take 9
      some (Nat.ofDigitChars 10 kept 0, cs.dropWhile Char.isDigit)
  | cs => some (0, cs)

/-- Reads a zone: `Z`, or hours and minutes ahead of UTC or behind it. -/
def scanOffset : List Char → Option (Int × List Char)
  | [] => none
  | c :: cs =>
    if c == 'Z' || c == 'z' then some (0, cs)
    else if c == '+' || c == '-' || c == '\u2212' then do
      let (hours, cs) ← scanFixed 2 23 cs
      let cs ← Date.expect ':' cs
      let (minutes, cs) ← scanFixed 2 59 cs
      let total : Int := hours * 60 + minutes
      some (if c == '+' then total else -total, cs)
    else none

/-- Reads a time of day with its zone, to the end of the text. -/
def readClock (cs : List Char) : Option Clock := do
  let (hour, cs) ← scanFixed 2 23 cs
  let cs ← Date.expect ':' cs
  let (minute, cs) ← scanFixed 2 59 cs
  let cs ← Date.expect ':' cs
  let (second, cs) ← scanFixed 2 60 cs
  let (nano, cs) ← scanFraction cs
  let (offset, cs) ← scanOffset cs
  if cs.isEmpty then
    if second = 60 then some ⟨hour * 3600 + minute * 60 + 59, 1000000000 + nano, offset⟩
    else some ⟨hour * 3600 + minute * 60 + second, nano, offset⟩
  else none

/-- The moment at which a clock on a local date shows a time. -/
def ofLocal (date : Date) (clock : Clock) : Option Timestamp :=
  let second : Int := clock.second - clock.offset * 60
  if second < 0 then date.previous.map fun d => ⟨d, (second + 86400).toNat, clock.nano⟩
  else if 86400 ≤ second then date.next.map fun d => ⟨d, (second - 86400).toNat, clock.nano⟩
  else some ⟨date, second.toNat, clock.nano⟩

/-- Reads an RFC 3339 timestamp. -/
def read (cs : List Char) : Option Timestamp := do
  let (year, cs) ← scanFixed 4 9999 cs
  let cs ← Date.expect '-' cs
  let (month, cs) ← scanFixed 2 12 cs
  let cs ← Date.expect '-' cs
  let (day, cs) ← scanFixed 2 31 cs
  match cs with
  | [] => none
  | c :: cs =>
    if c == 'T' || c == 't' || c == ' ' then
      let clock ← readClock cs
      let date ← Date.ofParts? year month day
      ofLocal date clock
    else none

/-- Digits of a fraction of a second: none, three, six or nine. -/
def fractionText (nano : Nat) : List Char :=
  if nano = 0 then []
  else if nano % 1000000 = 0 then '.' :: Date.padded 3 (nano / 1000000)
  else if nano % 1000 = 0 then '.' :: Date.padded 6 (nano / 1000)
  else '.' :: Date.padded 9 nano

/-- The text of a moment, in UTC. -/
def text (t : Timestamp) : String :=
  let leap := 1000000000 ≤ t.nano
  let second := t.second % 60 + if leap then 1 else 0
  let nano := if leap then t.nano - 1000000000 else t.nano
  String.ofList <| t.date.chars ++ 'T' :: Date.padded 2 (t.second / 3600)
    ++ ':' :: Date.padded 2 (t.second / 60 % 60) ++ ':' :: Date.padded 2 second
    ++ fractionText nano ++ ['Z']

end Timestamp

end ResourceApi
