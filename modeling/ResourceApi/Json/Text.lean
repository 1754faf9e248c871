import ResourceApi.Text.Percent

/-!
# Text inside quotes

What stands between the quotes of a JSON text: the bytes of the text themselves, with a backslash in
front of whatever could not stand there. Scanning only asks for the form of the escapes; what they
stand for is asked when the text is wanted.

## Main definitions

- `escape` — the bytes of a text as they stand between quotes
- `scan` — the bytes up to the closing quote
- `unescape` — the bytes that escaped bytes stand for
- `decode` — the text that escaped bytes stand for

## Design notes

`scan` accepts more than `decode`: a lone surrogate or bytes that are not UTF-8 are no fault as long
as nobody asks for the text.
-/

namespace ResourceApi.Json

def ascii (c : Char) : UInt8 := UInt8.ofNat c.toNat

/-- The hexadecimal digit of a number below sixteen, lower case. -/
def hexDigit (n : Nat) : UInt8 := UInt8.ofNat (if n < 10 then 48 + n else 87 + n)

/-- One byte of a text as it stands between quotes. -/
def escapeByte (b : UInt8) : Bytes :=
  if b == 0x22 then [0x5C, 0x22]
  else if b == 0x5C then [0x5C, 0x5C]
  else if b == 0x08 then [0x5C, ascii 'b']
  else if b == 0x09 then [0x5C, ascii 't']
  else if b == 0x0A then [0x5C, ascii 'n']
  else if b == 0x0C then [0x5C, ascii 'f']
  else if b == 0x0D then [0x5C, ascii 'r']
  else if b < 0x20 then
    [0x5C, ascii 'u', 0x30, 0x30, hexDigit (b.toNat / 16), hexDigit (b.toNat % 16)]
  else [b]

/-- The bytes of a text as they stand between quotes. -/
def escape (bytes : Bytes) : Bytes := bytes.flatMap escapeByte

/-- The byte that a backslash and one further byte stand for. -/
def shortEscape? (b : UInt8) : Option UInt8 :=
  if b == 0x22 || b == 0x5C || b == 0x2F then some b
  else if b == ascii 'b' then some 0x08
  else if b == ascii 'f' then some 0x0C
  else if b == ascii 'n' then some 0x0A
  else if b == ascii 'r' then some 0x0D
  else if b == ascii 't' then some 0x09
  else none

/-- The number that four hexadecimal digits stand for. -/
def readUnit (a b c d : UInt8) : Option Nat := do
  let a ← Text.hexValue? a
  let b ← Text.hexValue? b
  let c ← Text.hexValue? c
  let d ← Text.hexValue? d
  some (a * 4096 + b * 256 + c * 16 + d)

/-- A scan with some bytes put in front of what it found. -/
def consume (front : Bytes) : Option (Bytes × Bytes) → Option (Bytes × Bytes) :=
  Option.map fun found => (front ++ found.1, found.2)

/-- The bytes up to the closing quote, and those behind it. Control characters have to be escaped,
and every escape has to have the right form. -/
def scan : Bytes → Option (Bytes × Bytes)
  | [] => none
  | 0x22 :: rest => some ([], rest)
  | 0x5C :: 0x75 :: a :: b :: c :: d :: rest =>
    if (readUnit a b c d).isSome then consume [0x5C, 0x75, a, b, c, d] (scan rest) else none
  | 0x5C :: e :: rest => if (shortEscape? e).isSome then consume [0x5C, e] (scan rest) else none
  | b :: rest => if b < 0x20 || b == 0x5C then none else consume [b] (scan rest)

/-- The bytes of the character with a code point. -/
def utf8Of (code : Nat) : Bytes := String.utf8EncodeChar (Char.ofNat code)

/-- Whether a number is the first half of a surrogate pair. -/
def isHighSurrogate (u : Nat) : Bool := 0xD800 ≤ u && u < 0xDC00

/-- Whether a number is the second half of a surrogate pair. -/
def isLowSurrogate (u : Nat) : Bool := 0xDC00 ≤ u && u < 0xE000

/-- The bytes that escaped bytes stand for. -/
def unescape : Bytes → Option Bytes
  | [] => some []
  | 0x5C :: 0x75 :: a :: b :: c :: d :: rest => do
    let high ← readUnit a b c d
    -- The two halves of a surrogate pair stand for one character; neither may stand alone.
    if isHighSurrogate high then
      match rest with
      | 0x5C :: 0x75 :: a :: b :: c :: d :: rest => do
        let low ← readUnit a b c d
        if isLowSurrogate low then
          (unescape rest).map (utf8Of (0x10000 + (high - 0xD800) * 1024 + (low - 0xDC00)) ++ ·)
        else none
      | _ => none
    else if isLowSurrogate high then none
    else (unescape rest).map (utf8Of high ++ ·)
  | 0x5C :: e :: rest => do
    let b ← shortEscape? e
    (unescape rest).map (b :: ·)
  | b :: rest => (unescape rest).map (b :: ·)

def decode (raw : Bytes) : Option String := (unescape raw).bind Text.ofUtf8?

end ResourceApi.Json
