/-!
# Text as bytes

A body is a sequence of bytes; the text in it is UTF-8. Reading is strict where a fault is an error
(request bodies, path segments) and lenient where it is not (query strings): the lenient reader
puts U+FFFD in place of each maximal run of bytes that starts a character but does not complete one,
as the Unicode standard recommends.

## Main definitions

- `Bytes` — a sequence of bytes
- `utf8` — the bytes of a text
- `ofUtf8?` — the strict reader
- `ofUtf8Lossy` — the lenient reader

## Design notes

The strict reader is core's decoder, which refuses surrogates, overlong forms and code points above
U+10FFFF. The lenient one walks the table of well-formed byte sequences: after a lead byte come
bytes from the ranges of `tailRanges`.
-/

namespace ResourceApi

/-- A sequence of bytes, such as the body of a request. -/
abbrev Bytes := List UInt8

namespace Text

def utf8 (s : String) : Bytes := s.toList.flatMap String.utf8EncodeChar

/-- The text that some bytes encode, if they encode one. -/
def ofUtf8? (bytes : Bytes) : Option String :=
  (bytes.toByteArray.utf8Decode?).map fun cs => String.ofList cs.toList

/-- The character U+FFFD, which stands for bytes that encode nothing. -/
def replacement : Char := Char.ofNat 0xFFFD

/-- The ranges of the bytes that may follow a lead byte; `none` for a byte that leads nothing. -/
def tailRanges (lead : UInt8) : Option (List (UInt8 × UInt8)) :=
  let tail : UInt8 × UInt8 := (0x80, 0xBF)
  if lead < 0x80 then some []
  else if lead < 0xC2 then none
  else if lead < 0xE0 then some [tail]
  else if lead == 0xE0 then some [(0xA0, 0xBF), tail]
  else if lead == 0xED then some [(0x80, 0x9F), tail]
  else if lead < 0xF0 then some [tail, tail]
  else if lead == 0xF0 then some [(0x90, 0xBF), tail, tail]
  else if lead < 0xF4 then some [tail, tail, tail]
  else if lead == 0xF4 then some [(0x80, 0x8F), tail, tail]
  else none

/-- Takes bytes from the front as long as they fit the ranges. Yields the ranges left over, the
bytes taken and the bytes behind them. -/
def takeTail : List (UInt8 × UInt8) → Bytes → List (UInt8 × UInt8) × Bytes × Bytes
  | [], rest => ([], [], rest)
  | range :: ranges, [] => (range :: ranges, [], [])
  | range :: ranges, b :: rest =>
    if range.1 ≤ b && b ≤ range.2 then
      let (left, taken, rest) := takeTail ranges rest
      (left, b :: taken, rest)
    else (range :: ranges, [], b :: rest)

/-- The character of a lead byte and the tail bytes that belong to it. -/
def assemble (lead : UInt8) (tail : Bytes) : Char :=
  let start := if tail.isEmpty then lead.toNat else lead.toNat % Nat.pow 2 (6 - tail.length)
  Char.ofNat (tail.foldl (fun value b => value * 64 + b.toNat % 64) start)

/-- One step of the lenient reader: the first character, and the bytes behind it. -/
def stepLossy (lead : UInt8) (rest : Bytes) : Char × Bytes :=
  match tailRanges lead with
  | none => (replacement, rest)
  | some ranges =>
    match takeTail ranges rest with
    | ([], taken, rest) => (assemble lead taken, rest)
    | (_, _, rest) => (replacement, rest)

/-- Reads at most `fuel` characters leniently. -/
def lossyUpTo : Nat → Bytes → List Char
  | 0, _ => []
  | _ + 1, [] => []
  | fuel + 1, b :: rest =>
    let (c, rest) := stepLossy b rest
    c :: lossyUpTo fuel rest

/-- The lenient reader. -/
def ofUtf8Lossy (bytes : Bytes) : String :=
  -- A text has no more characters than bytes, so the length is fuel enough.
  String.ofList (lossyUpTo bytes.length bytes)

end Text

end ResourceApi
