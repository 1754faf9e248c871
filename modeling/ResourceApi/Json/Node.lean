import ResourceApi.Json.Text
import ResourceApi.Number.Digits

/-!
# JSON

The syntax tree of a JSON text. Numbers and texts keep their spelling, so that reading a tree judges
nothing but its form; what a number or a text means is asked where it is used.

## Main definitions

- `Node` — a syntax tree
- `Node.bytes` — the tree written without blanks
- `Node.read` — the tree that a whole body consists of
- `Node.ofText`, `Node.ofInt` — the trees of values
- `Node.text?`, `Node.integer?`, `Node.boolean?` — the values of trees
-/

namespace ResourceApi.Json

/-- A syntax tree. -/
inductive Node where
  /-- The word `null`. -/
  | null
  /-- One of the words `true` and `false`. -/
  | boolean (b : Bool)
  | number (spelling : Bytes)
  /-- A text as it stands between its quotes. -/
  | text (raw : Bytes)
  | array (items : List Node)
  /-- Trees in braces, each behind a key as it stands between its quotes. -/
  | object (members : List (Bytes × Node))

namespace Node

def ofText (s : String) : Node := .text (escape (Text.utf8 s))

def ofInt (n : Int) : Node := .number ((Number.intText n).map ascii)

def ofMembers (members : List (String × Node)) : Node :=
  .object (members.map fun member => (escape (Text.utf8 member.1), member.2))

def text? : Node → Option String
  | .text raw => decode raw
  | _ => none

/-- The integer that a tree stands for; a number with a point or an exponent is none. -/
def integer? : Node → Option Int
  | .number spelling =>
    let cs := spelling.map fun b => Char.ofNat b.toNat
    -- Minus zero is read as a number with a point.
    if cs == ['-', '0'] then none else Number.readInt64 cs
  | _ => none

/-- The truth value that a tree stands for. -/
def boolean? : Node → Option Bool
  | .boolean b => some b
  | _ => none

def quoted (raw : Bytes) : Bytes := 0x22 :: raw ++ [0x22]

/-- Pieces with a comma between any two. -/
def commas : List Bytes → Bytes
  | [] => []
  | [piece] => piece
  | piece :: pieces => piece ++ 0x2C :: commas pieces

mutual

/-- A tree written without blanks. -/
def bytes : Node → Bytes
  | .null => Text.utf8 "null"
  | .boolean true => Text.utf8 "true"
  | .boolean false => Text.utf8 "false"
  | .number spelling => spelling
  | .text raw => quoted raw
  | .array items => 0x5B :: commas (itemBytes items) ++ [0x5D]
  | .object members => 0x7B :: commas (memberBytes members) ++ [0x7D]

/-- The items of an array, each written without blanks. -/
def itemBytes : List Node → List Bytes
  | [] => []
  | item :: items => item.bytes :: itemBytes items

/-- The members of an object, each written without blanks. -/
def memberBytes : List (Bytes × Node) → List Bytes
  | [] => []
  | (key, value) :: members => (quoted key ++ 0x3A :: value.bytes) :: memberBytes members

end

def isSpace (b : UInt8) : Bool := b == 0x20 || b == 0x09 || b == 0x0A || b == 0x0D

def skip (bs : Bytes) : Bytes := bs.dropWhile isSpace

def isDigit (b : UInt8) : Bool := 0x30 ≤ b && b ≤ 0x39

def scanDigits (bs : Bytes) : Option (Bytes × Bytes) :=
  if (bs.takeWhile isDigit).isEmpty then none
  else some (bs.takeWhile isDigit, bs.dropWhile isDigit)

/-- A run of digits that starts with a zero only if it is one. -/
def scanWhole (bs : Bytes) : Option (Bytes × Bytes) :=
  match bs.takeWhile isDigit with
  | [] => none
  | 0x30 :: _ :: _ => none
  | digits => some (digits, bs.dropWhile isDigit)

/-- The fraction of a number, if there is one. -/
def scanFraction : Bytes → Option (Bytes × Bytes)
  | 0x2E :: rest => consume [0x2E] (scanDigits rest)
  | bs => some ([], bs)

/-- The exponent of a number, if there is one. -/
def scanExponent : Bytes → Option (Bytes × Bytes)
  | e :: rest =>
    if e == ascii 'e' || e == ascii 'E' then
      match rest with
      | 0x2B :: rest => consume [e, 0x2B] (scanDigits rest)
      | 0x2D :: rest => consume [e, 0x2D] (scanDigits rest)
      | rest => consume [e] (scanDigits rest)
    else some ([], e :: rest)
  | [] => some ([], [])

/-- The spelling of a number without its sign, and the bytes behind it. -/
def scanMagnitude (bs : Bytes) : Option (Bytes × Bytes) := do
  let (whole, bs) ← scanWhole bs
  let (fraction, bs) ← scanFraction bs
  let (exponent, bs) ← scanExponent bs
  some (whole ++ fraction ++ exponent, bs)

/-- The spelling of a number, and the bytes behind it. -/
def scanNumber : Bytes → Option (Bytes × Bytes)
  | 0x2D :: rest => consume [0x2D] (scanMagnitude rest)
  | bs => scanMagnitude bs

/-- The bytes behind a word. -/
def afterWord (word : String) (bs : Bytes) : Option Bytes :=
  let letters := Text.utf8 word
  if bs.take letters.length == letters then some (bs.drop letters.length) else none

mutual

/-- The tree at the front of some bytes, and the bytes behind it. -/
def readTree : Nat → Bytes → Option (Node × Bytes)
  | 0, _ => none
  | fuel + 1, bs =>
    match skip bs with
    | [] => none
    | 0x22 :: rest => (scan rest).map fun found => (.text found.1, found.2)
    | 0x5B :: rest =>
      match skip rest with
      | 0x5D :: rest => some (.array [], rest)
      | rest => (readItems fuel rest).map fun found => (.array found.1, found.2)
    | 0x7B :: rest =>
      match skip rest with
      | 0x7D :: rest => some (.object [], rest)
      | rest => (readMembers fuel rest).map fun found => (.object found.1, found.2)
    | 0x6E :: rest => (afterWord "ull" rest).map fun rest => (.null, rest)
    | 0x74 :: rest => (afterWord "rue" rest).map fun rest => (.boolean true, rest)
    | 0x66 :: rest => (afterWord "alse" rest).map fun rest => (.boolean false, rest)
    | bs => (scanNumber bs).map fun found => (.number found.1, found.2)

/-- The items of an array up to its closing bracket, at least one. -/
def readItems : Nat → Bytes → Option (List Node × Bytes)
  | 0, _ => none
  | fuel + 1, bs => do
    let (item, bs) ← readTree fuel bs
    match skip bs with
    | 0x2C :: bs => do
      let (items, bs) ← readItems fuel bs
      some (item :: items, bs)
    | 0x5D :: bs => some ([item], bs)
    | _ => none

/-- The members of an object up to its closing brace, at least one. -/
def readMembers : Nat → Bytes → Option (List (Bytes × Node) × Bytes)
  | 0, _ => none
  | fuel + 1, bs =>
    match skip bs with
    | 0x22 :: bs => do
      let (key, bs) ← scan bs
      match skip bs with
      | 0x3A :: bs => do
        let (value, bs) ← readTree fuel bs
        match skip bs with
        | 0x2C :: bs => do
          let (members, bs) ← readMembers fuel bs
          some ((key, value) :: members, bs)
        | 0x7D :: bs => some ([(key, value)], bs)
        | _ => none
      | _ => none
    | _ => none

end

/-- The tree that a whole body consists of. -/
def read (body : Bytes) : Option Node := do
  -- Two steps of the reader take at least one byte, so twice the length is fuel enough.
  let (node, rest) ← readTree (2 * body.length + 1) body
  if (skip rest).isEmpty then some node else none

end Node

end ResourceApi.Json
