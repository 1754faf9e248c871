import ResourceApi.Calendar.Timestamp
import ResourceApi.Number.Decimal
import ResourceApi.Settings.Tree
import ResourceApi.Text.Percent

/-!
# Words of a TOML text

The values of a TOML text that are written as one word: truth values, integers in four bases,
numbers with a point or an exponent, dates and times.

## Main definitions

- `readInteger`, `readReal`, `readMoment` — the kinds of words
- `readWord` — the value that a word stands for
-/

namespace ResourceApi.Toml

/-- The digits of a group that underscores part. There is a digit on each side of an underscore. -/
def ungroup (isDigit : Char → Bool) (cs : List Char) : Option (List Char) :=
  let groups := Text.pieces '_' cs
  if groups.all fun group => !group.isEmpty && group.all isDigit then some groups.flatten else none

/-- Whether a character is a digit of base eight. -/
def isOctalDigit (c : Char) : Bool := '0' ≤ c && c ≤ '7'

/-- Whether a character is a digit of base two. -/
def isBinaryDigit (c : Char) : Bool := c == '0' || c == '1'

/-- Reads decimal digits that start with a zero only if they are one. -/
def readWhole (cs : List Char) : Option (List Char) :=
  match ungroup Char.isDigit cs with
  | some ('0' :: _ :: _) => none
  | digits => digits

def partSign : List Char → Bool × List Char
  | '+' :: cs => (false, cs)
  | '-' :: cs => (true, cs)
  | cs => (false, cs)

def readUnbounded (cs : List Char) : Option Int :=
  match cs with
  | '0' :: 'x' :: digits =>
    (ungroup Number.isHexDigit digits).map fun ds => (Number.ofDigits 16 ds : Int)
  | '0' :: 'o' :: digits =>
    (ungroup isOctalDigit digits).map fun ds => (Number.ofDigits 8 ds : Int)
  | '0' :: 'b' :: digits =>
    (ungroup isBinaryDigit digits).map fun ds => (Number.ofDigits 2 ds : Int)
  | _ =>
    let (negative, digits) := partSign cs
    (readWhole digits).map fun ds =>
      let n : Int := Number.ofDigits 10 ds
      if negative then -n else n

/-- Reads an integer of 64 bits. -/
def readInteger (cs : List Char) : Option Int :=
  (readUnbounded cs).filter fun n => Number.minInt64 ≤ n && n ≤ Number.maxInt64

/-- Whether some characters are an exponent behind its letter. -/
def isExponent (cs : List Char) : Bool := (ungroup Char.isDigit (partSign cs).2).isSome

/-- Whether some characters are a number with a point, without sign and exponent. -/
def isPointed (cs : List Char) : Bool :=
  match Text.cut '.' cs with
  | some (whole, fraction) => (readWhole whole).isSome && (ungroup Char.isDigit fraction).isSome
  | none => false

/-- Whether some characters are a number with a point or an exponent, without sign. -/
def isUnsignedReal (cs : List Char) : Bool :=
  match Text.cut 'e' (cs.map fun c => if c == 'E' then 'e' else c) with
  | some (mantissa, exponent) =>
    (isPointed mantissa || (readWhole mantissa).isSome) && isExponent exponent
  | none => isPointed cs

def isBoundless (cs : List Char) : Bool :=
  match Number.Binary.read Number.binary64 (cs.filter (· != '_')) with
  | some x => x.magnitude == Number.binary64.infinity && !x.negative
  | none => false

/-- Reads a number with a point or an exponent, or one of the words `inf` and `nan`. A number too
large for double precision is none. -/
def readReal (cs : List Char) : Option Tree :=
  let magnitude := (partSign cs).2
  if magnitude == "inf".toList || magnitude == "nan".toList then some .real
  else if isUnsignedReal magnitude && !isBoundless cs then some .real
  else none

/-- Reads a time of day; yields what is behind it. -/
def scanTime (cs : List Char) : Option (List Char) := do
  let (_, cs) ← Timestamp.scanFixed 2 23 cs
  let cs ← Date.expect ':' cs
  let (_, cs) ← Timestamp.scanFixed 2 59 cs
  let cs ← Date.expect ':' cs
  let (_, cs) ← Timestamp.scanFixed 2 60 cs
  let (_, cs) ← Timestamp.scanFraction cs
  some cs

/-- Reads a date; yields what is behind it. -/
def scanDate (cs : List Char) : Option (List Char) := do
  let (year, cs) ← Timestamp.scanFixed 4 9999 cs
  let cs ← Date.expect '-' cs
  let (month, cs) ← Timestamp.scanFixed 2 12 cs
  let cs ← Date.expect '-' cs
  let (day, cs) ← Timestamp.scanFixed 2 31 cs
  if isDate year month day then some cs else none

/-- Whether some characters are a zone, or nothing at all. -/
def isZone : List Char → Bool
  | [] => true
  | '\u2212' :: _ => false
  | cs => (Timestamp.scanOffset cs).any fun found => found.2.isEmpty

/-- Whether some characters are a time of day with an optional zone. -/
def isZonedTime (cs : List Char) : Bool := (scanTime cs).any isZone

def isDay (cs : List Char) : Bool := (scanDate cs).any List.isEmpty

/-- Whether some characters are a date, a time of day or both; a zone needs both. -/
def isMoment (cs : List Char) : Bool :=
  match scanDate cs with
  | none => (scanTime cs).any List.isEmpty
  | some [] => true
  | some (separator :: rest) =>
    (separator == 'T' || separator == 't' || separator == ' ') && isZonedTime rest

def readWord (cs : List Char) : Option Tree :=
  if cs == "true".toList then some (.boolean true)
  else if cs == "false".toList then some (.boolean false)
  else match readInteger cs with
    | some n => some (.integer n)
    | none => if isMoment cs then some .moment else readReal cs

end ResourceApi.Toml
