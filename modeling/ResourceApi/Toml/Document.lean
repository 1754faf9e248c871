import ResourceApi.Toml.Quoted
import ResourceApi.Toml.Section

/-!
# TOML

The text format of settings files: keys and values line by line, under headers that open tables.

## Main definitions

- `maxDepth` — how deep values and keys may go
- `scanKey` — a dotted key
- `scanValue` — a value
- `Toml.read` — the table that a whole text stands for
-/

namespace ResourceApi.Toml

/-- How many arrays and tables may stand inside each other in a value, and how many parts a key may
have. -/
def maxDepth : Nat := 79

def skipBlanks (cs : List Char) : List Char := cs.dropWhile isBlank

/-- The text behind a comment, if there is one. -/
def afterComment? : List Char → Option (List Char)
  | '#' :: cs =>
    -- A comment goes to the end of its line, and the line break is left.
    match cs.dropWhile isPlain with
    | [] => some []
    | rest => (afterBreak? rest).map fun _ => rest
  | cs => some cs

/-- The text behind blanks, comments and line breaks. Every step takes a character, so the length is
fuel enough. -/
def skipLines : Nat → List Char → Option (List Char)
  | 0, cs => some cs
  | fuel + 1, cs => do
    let cs ← afterComment? (skipBlanks cs)
    match afterBreak? cs with
    | some rest => skipLines fuel rest
    | none => some cs

/-- The text behind the rest of a line, in which nothing but a comment may stand. -/
def endLine (cs : List Char) : Option (List Char) := do
  match ← afterComment? (skipBlanks cs) with
  | [] => some []
  | rest => afterBreak? rest

def isBare (c : Char) : Bool := c.isAlphanum || c == '-' || c == '_'

def scanPart (cs : List Char) : Option (String × List Char) :=
  match cs with
  | '"' :: rest =>
    (scanQuoted '"' rest.length rest).map fun found => (String.ofList found.1, found.2)
  | '\'' :: rest =>
    (scanQuoted '\'' rest.length rest).map fun found => (String.ofList found.1, found.2)
  | _ =>
    if (cs.takeWhile isBare).isEmpty then none
    else some (String.ofList (cs.takeWhile isBare), cs.dropWhile isBare)

/-- The parts of a dotted key, with blanks around its dots. There are at most as many as the first
argument says. -/
def scanParts : Nat → List Char → Option (List String × List Char)
  | 0, _ => none
  | limit + 1, cs => do
    let (part, cs) ← scanPart (skipBlanks cs)
    match skipBlanks cs with
    | '.' :: rest => do
      let (parts, cs) ← scanParts limit rest
      some (part :: parts, cs)
    | cs => some ([part], cs)

/-- A dotted key, and what is behind it. -/
def scanKey (cs : List Char) : Option (List String × List Char) := scanParts maxDepth cs

def endsWord (c : Char) : Bool :=
  isBlank c || c == ',' || c == ']' || c == '\x7d' || c == '#' || c == '\n' || c == '\r'

/-- A word at the front of a text, and what is behind it. -/
def scanWord (cs : List Char) : Option (Tree × List Char) :=
  let word := cs.takeWhile (!endsWord ·)
  match isDay word, cs.dropWhile (!endsWord ·) with
  -- A date and the time of day behind it are one word, even with a space between them.
  | true, ' ' :: c :: rest =>
    if c.isDigit then
      let time := (c :: rest).takeWhile (!endsWord ·)
      (readWord (word ++ ' ' :: time)).map fun t => (t, (c :: rest).dropWhile (!endsWord ·))
    else some (.moment, ' ' :: c :: rest)
  | _, rest => (readWord word).map fun t => (t, rest)

mutual

/-- A value at the front of a text, and what is behind it. The second argument says how many arrays
and tables may stand inside each other. -/
def scanValue : Nat → Nat → List Char → Option (Tree × List Char)
  | 0, _, _ => none
  | fuel + 1, depth, cs =>
    match cs, depth with
    | '"' :: rest, _ =>
      (scanText '"' rest).map fun found => (.text (String.ofList found.1), found.2)
    | '\'' :: rest, _ =>
      (scanText '\'' rest).map fun found => (.text (String.ofList found.1), found.2)
    | '[' :: _, 0 => none
    | '[' :: rest, depth + 1 =>
      (scanItems fuel depth rest).map fun found => (.list found.1, found.2)
    | '\x7b' :: _, 0 => none
    | '\x7b' :: rest, depth + 1 =>
      match skipBlanks rest with
      | '\x7d' :: rest => some (.empty, rest)
      | rest => (scanPairs fuel depth [] rest).map fun found => (.table (treesOf found.1), found.2)
    | cs, _ => scanWord cs

/-- The items of an array up to its closing bracket. Lines may break anywhere between them, and a
comma may follow the last one. -/
def scanItems : Nat → Nat → List Char → Option (List Tree × List Char)
  | 0, _, _ => none
  | fuel + 1, depth, cs => do
    match ← skipLines cs.length cs with
    | ']' :: rest => some ([], rest)
    | cs => do
      let (item, cs) ← scanValue fuel depth cs
      match ← skipLines cs.length cs with
      | ',' :: rest => do
        let (items, rest) ← scanItems fuel depth rest
        some (item :: items, rest)
      | ']' :: rest => some ([item], rest)
      | _ => none

/-- The keys and values of a table on one line up to its closing brace, at least one. -/
def scanPairs : Nat → Nat → Entries → List Char → Option (Entries × List Char)
  | 0, _, _, _ => none
  | fuel + 1, depth, entries, cs => do
    let (key, cs) ← scanKey cs
    match cs with
    | '=' :: rest => do
      let (value, cs) ← scanValue fuel depth (skipBlanks rest)
      let entries ← put value key entries
      match skipBlanks cs with
      | ',' :: rest => scanPairs fuel depth entries rest
      | '\x7d' :: rest => some (entries, rest)
      | _ => none
    | _ => none

end

/-- What has been read: the tables, and the key of the last header. -/
structure Progress where
  entries : Entries
  header : List String

/-- Reads a line with a key and a value. -/
def scanPair (p : Progress) (cs : List Char) : Option (Progress × List Char) := do
  let (key, cs) ← scanKey cs
  match cs with
  | '=' :: rest => do
    let rest := skipBlanks rest
    let (value, cs) ← scanValue (2 * rest.length + 2) maxDepth rest
    let entries ← within (put value key) p.header p.entries
    some (⟨entries, p.header⟩, cs)
  | _ => none

/-- Reads the rest of a header, whose closing brackets are `close`. -/
def scanHeader (close : List Char) (enter : List String → Entries → Option Entries) (p : Progress)
    (cs : List Char) : Option (Progress × List Char) := do
  let (key, cs) ← scanKey cs
  if cs.take close.length == close then
    let entries ← enter key p.entries
    some (⟨entries, key⟩, cs.drop close.length)
  else none

def scanLine (p : Progress) (cs : List Char) : Option (Progress × List Char) := do
  let (p, cs) ← match cs with
    | '[' :: '[' :: rest => scanHeader [']', ']'] append p rest
    | '[' :: rest => scanHeader [']'] declare p rest
    | _ => scanPair p cs
  let cs ← endLine cs
  some (p, cs)

/-- Reads the lines of a text. Every line takes a character, so the length is fuel enough. -/
def readLines : Nat → Progress → List Char → Option Progress
  | 0, p, cs => if cs.isEmpty then some p else none
  | fuel + 1, p, cs => do
    match ← skipLines cs.length cs with
    | [] => some p
    | cs => do
      let (p, cs) ← scanLine p cs
      readLines fuel p cs

/-- The table that a whole text stands for. -/
def read (s : String) : Option Tree :=
  -- A byte order mark in front of the text does not count.
  let cs := match s.toList with
    | '\ufeff' :: cs => cs
    | cs => cs
  (readLines (cs.length + 1) ⟨[], []⟩ cs).map fun p => .table (treesOf p.entries)

end ResourceApi.Toml
