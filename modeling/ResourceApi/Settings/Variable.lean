import ResourceApi.Number.Digits
import ResourceApi.Settings.Tree
import ResourceApi.Text.Ascii
import ResourceApi.Text.Blank
import ResourceApi.Text.Split
import ResourceApi.Toml.Quoted

/-!
# Variables of the environment

A variable whose name starts with `ACTON_` is a setting: two underscores in the rest of the name
part it into nested names. Its value is read as a truth value, a number, a text in quotes, a list or
a table where it looks like one, and as a text otherwise.

## Main definitions

- `Variable.path?` — the path of names that a variable sets
- `Variable.read` — the value of a variable
- `Variable.tree` — the settings that an environment holds
-/

namespace ResourceApi.Variable

/-- What the names of settings start with. -/
def front : List Char := "ACTON_".toList

/-- Two underscores as one dot. -/
def dotted : List Char → List Char
  | '_' :: '_' :: cs => '.' :: dotted cs
  | c :: cs => c :: dotted cs
  | [] => []

/-- The path of names that a variable sets, in small letters. Blanks at the ends of the name and of
its part behind `ACTON_` do not count. -/
def path? (name : String) : Option (List String) :=
  let cs := Text.trim name.toList
  if Text.sameLetters (cs.take front.length) front then
    let parts := Text.pieces '.' (Text.lower (Text.trim (dotted (cs.drop front.length))))
    -- A name with an empty part sets nothing.
    if parts.any List.isEmpty then none else some (parts.map String.ofList)
  else none

/-- The space characters of ASCII between the parts of a value. -/
def isSpace (c : Char) : Bool :=
  c == ' ' || c == '\t' || c == '\n' || c == '\r' || c == '\x0c'

/-- The text behind spaces. -/
def skip (cs : List Char) : List Char := cs.dropWhile isSpace

/-- Whether a character parts values from each other. -/
def isSeparator (c : Char) : Bool :=
  c == ',' || c == '[' || c == ']' || c == '\x7b' || c == '\x7d'

/-- The value of a word: a number, or else a text. -/
def plain (cs : List Char) : Tree :=
  if cs.contains '.' && (Number.Binary.read Number.binary64 cs).isSome then .real
  else match Number.readUnsigned Number.maxUInt64 cs with
    | some n => .integer n
    | none =>
      match Number.readInt64 cs with
      | some n => .integer n
      | none => .text (String.ofList cs)

/-- A character between single quotes, behind the first of them. -/
def scanCharacter : List Char → Option (Tree × List Char)
  | c :: '\'' :: rest => some (.text (String.ofList [c]), rest)
  | _ => none

/-- A name in a table: a text in quotes, or letters, digits, underscores and hyphens. -/
def scanName (cs : List Char) : Option (String × List Char) :=
  match cs with
  | '"' :: rest =>
    (Toml.scanQuoted '"' rest.length rest).map fun found => (String.ofList found.1, found.2)
  | _ =>
    let isPart (c : Char) : Bool := c.isAlphanum || c == '_' || c == '-'
    if (cs.takeWhile isPart).isEmpty then none
    else some (String.ofList (cs.takeWhile isPart), cs.dropWhile isPart)

mutual

/-- A value at the front of a text, and what is behind it. -/
def scanValue : Nat → List Char → Option (Tree × List Char)
  | 0, _ => none
  | fuel + 1, cs => do
    let (value, rest) ← match skip cs with
      -- Behind a truth value there may be anything, also more letters.
      | 't' :: 'r' :: 'u' :: 'e' :: rest => some (.boolean true, rest)
      | 'f' :: 'a' :: 'l' :: 's' :: 'e' :: rest => some (.boolean false, rest)
      | '\x7b' :: rest =>
        (scanEntries fuel rest).map fun found => (.table (Tree.collect found.1), found.2)
      | '[' :: rest => (scanItems fuel rest).map fun found => (.list found.1, found.2)
      | '"' :: rest =>
        (Toml.scanQuoted '"' rest.length rest).map fun found =>
          (.text (String.ofList found.1), found.2)
      | '\'' :: rest => scanCharacter rest
      | cs =>
        some (plain (Text.trim (cs.takeWhile (!isSeparator ·))), cs.dropWhile (!isSeparator ·))
    some (value, skip rest)

/-- The items of a list up to its closing bracket. -/
def scanItems : Nat → List Char → Option (List Tree × List Char)
  | 0, _ => none
  | _ + 1, ']' :: rest => some ([], rest)
  | fuel + 1, cs => do
    let (item, cs) ← scanValue fuel cs
    match cs with
    | ',' :: rest => do
      let (items, rest) ← scanItems fuel rest
      some (item :: items, rest)
    | ']' :: rest => some ([item], rest)
    | _ => none

/-- The entries of a table up to its closing brace. -/
def scanEntries : Nat → List Char → Option (List (String × Tree) × List Char)
  | 0, _ => none
  | _ + 1, '\x7d' :: rest => some ([], rest)
  | fuel + 1, cs => do
    let (name, cs) ← scanName (skip cs)
    match skip cs with
    | '=' :: rest => do
      let (value, cs) ← scanValue fuel rest
      match cs with
      | ',' :: rest => do
        let (entries, rest) ← scanEntries fuel rest
        some ((name, value) :: entries, rest)
      | '\x7d' :: rest => some ([(name, value)], rest)
      | _ => none
    | _ => none

end

/-- The value of a variable. -/
def read (value : String) : Tree :=
  let cs := value.toList
  match scanValue (2 * cs.length + 2) cs with
  | some (tree, []) => tree
  -- What does not look like a value is a text as it is.
  | _ => .text value

/-- The settings that an environment holds; of two variables that set the same, the later counts. -/
def tree (environment : List (String × String)) : Tree :=
  environment.foldl (fun under entry =>
    match path? entry.1 with
    | some path => under.layer (.nest (read entry.2) path)
    | none => under) .empty

end ResourceApi.Variable
