/-!
# Integers and their digits

Reading and writing integers in base ten. A reader takes the whole text: an optional sign, then at
least one ASCII digit, nothing else. Leading zeros are allowed, blanks and separators are not, and
a value outside the range asked for is refused. In other bases only digits that are known to be
digits are read.

## Main definitions

- `natText`, `intText`, `decimal` — the digits of a number, with a minus sign where it is negative
- `readNat`, `readUnsigned`, `readSigned` — the readers
- `ofDigits` — the number that digits of a base up to sixteen stand for
- `scanCodePoint` — a code point in base sixteen
- `minInt64`, `maxInt64` and the other limits of the numbers this library reads
-/

namespace ResourceApi.Number

/-- The least identifier or integer value. -/
def minInt64 : Int := -0x8000000000000000

/-- The greatest identifier or integer value. -/
def maxInt64 : Int := 0x7FFFFFFFFFFFFFFF

/-- The greatest page number or page size. -/
def maxUInt32 : Nat := 0xFFFFFFFF

/-- The greatest number without a sign. -/
def maxUInt64 : Nat := 0xFFFFFFFFFFFFFFFF

/-- The digits of a natural number, without leading zeros. -/
def natText (n : Nat) : List Char := Nat.toDigits 10 n

/-- The digits of an integer, after a minus sign if it is negative. -/
def intText : Int → List Char
  | .ofNat n => natText n
  | .negSucc n => '-' :: natText (n + 1)

def decimal (n : Int) : String := String.ofList (intText n)

def readNat (cs : List Char) : Option Nat :=
  if cs.isEmpty then none
  else if cs.all Char.isDigit then some (Nat.ofDigitChars 10 cs 0)
  else none

/-- Reads a number from `0` to `limit`, with or without a plus sign. -/
def readUnsigned (limit : Nat) (cs : List Char) : Option Nat :=
  let value := match cs with
    | '+' :: ds => readNat ds
    | _ => readNat cs
  value.filter (· ≤ limit)

/-- Reads an integer from `least` to `greatest`, with or without a sign. -/
def readSigned (least greatest : Int) (cs : List Char) : Option Int :=
  let value := match cs with
    | '+' :: ds => (readNat ds).map Int.ofNat
    | '-' :: ds => (readNat ds).map fun n => -Int.ofNat n
    | _ => (readNat cs).map Int.ofNat
  value.filter fun n => least ≤ n ∧ n ≤ greatest

/-- Reads an identifier, or any other integer of 64 bits. -/
def readInt64 (cs : List Char) : Option Int := readSigned minInt64 maxInt64 cs

/-- The value of a digit in base sixteen. -/
def digitValue (c : Char) : Nat :=
  if c.isDigit then c.toNat - 48 else c.toLower.toNat - 87

/-- The number that digits of a base stand for. -/
def ofDigits (base : Nat) (digits : List Char) : Nat :=
  digits.foldl (fun n c => n * base + digitValue c) 0

/-- Whether a character is a digit of base sixteen. -/
def isHexDigit (c : Char) : Bool := c.isDigit || ('a' ≤ c.toLower && c.toLower ≤ 'f')

/-- Reads the code point of a character, written with `width` digits of base sixteen. -/
def scanCodePoint (width : Nat) (cs : List Char) : Option (Nat × List Char) :=
  let digits := cs.take width
  let code := ofDigits 16 digits
  if digits.length == width && digits.all isHexDigit && code.isValidChar then
    some (code, cs.drop width)
  else none

end ResourceApi.Number
