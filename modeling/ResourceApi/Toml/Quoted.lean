import ResourceApi.Toml.Scalar

/-!
# Texts of a TOML text

Texts stand between one or three quotes, double or single. Between double quotes a backslash starts
an escape; between single quotes every character stands for itself. Only texts between three quotes
may hold line breaks, and one right behind the opening quotes does not count.

## Main definitions

- `isPlain` — the characters that a text may hold
- `scanEscape` — what a backslash stands for
- `scanQuoted` — a text on one line
- `scanBlock` — a text that may hold line breaks
- `scanText` — a text of any kind, and what is behind it
-/

namespace ResourceApi.Toml

/-- Tabs, visible ASCII characters, spaces, and everything beyond ASCII. -/
def isPlain (c : Char) : Bool :=
  c == '\t' || (0x20 ≤ c.toNat && c.toNat ≤ 0x7E) || 0x80 ≤ c.toNat

def isBlank (c : Char) : Bool := c == ' ' || c == '\t'

def afterBreak? : List Char → Option (List Char)
  | '\n' :: cs => some cs
  | '\r' :: '\n' :: cs => some cs
  | _ => none

/-- Reads the hexadecimal digits of a code point. -/
def scanCode (width : Nat) (cs : List Char) : Option (Char × List Char) :=
  (Number.scanCodePoint width cs).map fun found => (Char.ofNat found.1, found.2)

def scanEscape : List Char → Option (Char × List Char)
  | [] => none
  | c :: cs =>
    if c == 'b' then some ('\x08', cs)
    else if c == 't' then some ('\t', cs)
    else if c == 'n' then some ('\n', cs)
    else if c == 'f' then some ('\x0c', cs)
    else if c == 'r' then some ('\r', cs)
    else if c == '"' || c == '\\' then some (c, cs)
    else if c == 'u' then scanCode 4 cs
    else if c == 'U' then scanCode 8 cs
    else none

/-- A scan with a character put in front of what it found. -/
def push (c : Char) (found : Option (List Char × List Char)) : Option (List Char × List Char) :=
  found.map fun found => (c :: found.1, found.2)

/-- A text on one line, up to its closing quote. Every step takes a character, so the length is fuel
enough. -/
def scanQuoted (quote : Char) : Nat → List Char → Option (List Char × List Char)
  | 0, _ => none
  | _, [] => none
  | fuel + 1, c :: cs =>
    if c == quote then some ([], cs)
    else if c == '\\' && quote == '"' then do
      let (e, cs) ← scanEscape cs
      push e (scanQuoted quote fuel cs)
    else if isPlain c then push c (scanQuoted quote fuel cs)
    else none

def afterSpace : List Char → List Char
  | [] => []
  | '\r' :: '\n' :: cs => afterSpace cs
  | c :: cs => if isBlank c || c == '\n' then afterSpace cs else c :: cs

/-- The text behind a backslash that ends its line, and behind the blank that follows. -/
def afterJoin? (cs : List Char) : Option (List Char) :=
  (afterBreak? (cs.dropWhile isBlank)).map afterSpace

/-- A text that may hold line breaks, up to its closing quotes. Every step takes a character, so the
length is fuel enough. -/
def scanBlock (quote : Char) : Nat → List Char → Option (List Char × List Char)
  | 0, _ => none
  | _, [] => none
  | fuel + 1, c :: cs =>
    if c == quote then
      -- Of up to five quotes the last three close the text.
      let run := min 5 ((c :: cs).takeWhile (· == quote)).length
      if 3 ≤ run then some (List.replicate (run - 3) quote, (c :: cs).drop run)
      else push c (scanBlock quote fuel cs)
    else if c == '\\' && quote == '"' then
      match afterJoin? cs with
      | some rest => scanBlock quote fuel rest
      | none => do
        let (e, cs) ← scanEscape cs
        push e (scanBlock quote fuel cs)
    else if isPlain c then push c (scanBlock quote fuel cs)
    else do
      let rest ← afterBreak? (c :: cs)
      push '\n' (scanBlock quote fuel rest)

/-- A text of any kind, behind its first quote. -/
def scanText (quote : Char) (cs : List Char) : Option (List Char × List Char) :=
  if cs.take 2 == [quote, quote] then
    let cs := cs.drop 2
    let cs := (afterBreak? cs).getD cs
    scanBlock quote cs.length cs
  else scanQuoted quote cs.length cs

end ResourceApi.Toml
