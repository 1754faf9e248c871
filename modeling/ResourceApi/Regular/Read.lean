import ResourceApi.Regular.Set
import ResourceApi.Text.Alphanumeric

/-!
# Reading regular expressions

How an expression is spelled. Flags between parentheses hold up to the end of the group around them;
flags at the start of a group hold inside it.

## Main definitions

- `openGroup?` — what a parenthesis opens
- `readParts` — reads an expression up to the end of its group
- `Expression.read` — reads an expression
- `isRegular` — whether a text is an expression of use

## Design notes

Numbers of times are written between braces, but the texts that are read here cannot have a closing
brace in them. So an opening brace is never part of an expression.
-/

namespace ResourceApi.Regular

/-- Whether some characters are the name of a group. -/
def isGroupName : List Char → Bool
  | [] => false
  | c :: cs =>
    (Text.isAlphabetic c || c == '_')
      && cs.all fun c => Text.isAlphanumeric c || "_.[]".toList.contains c

/-- What a parenthesis opens. -/
inductive Opening where
  /-- A group, with its name and the mode inside. -/
  | group (name : Option (List Char)) (mode : Mode) (rest : List Char)
  /-- No group, but flags that lead to a mode. -/
  | flags (mode : Mode) (rest : List Char)

/-- Reads the name of a group up to the angle bracket behind it. -/
def openNamed? (m : Mode) (cs : List Char) : Option Opening :=
  match Text.cut '>' cs with
  | some (name, rest) => if isGroupName name then some (.group (some name) m rest) else none
  | none => none

/-- Reads flags, and the colon of a group or the parenthesis behind them. -/
def openFlags? (m : Mode) (cs : List Char) : Option Opening :=
  let isInside (c : Char) : Bool := c != ':' && c != ')'
  let flags := cs.takeWhile isInside
  if areFlags flags then
    match cs.dropWhile isInside with
    | ':' :: rest => some (.group none (m.change flags) rest)
    | ')' :: rest => if flags.isEmpty then none else some (.flags (m.change flags) rest)
    | _ => none
  else none

def openGroup? (m : Mode) (cs : List Char) : Option Opening :=
  match m.skip cs with
  | '?' :: 'P' :: '<' :: cs => openNamed? m cs
  | '?' :: '<' :: cs => openNamed? m cs
  | '?' :: cs => openFlags? m cs
  | cs => some (.group none m cs)

/-- Reads a part of an expression that is no group, set or operator. -/
def scanAtom (m : Mode) : List Char → Option (Atom × List Char)
  | [] => none
  | '\\' :: cs => m.scanEscape cs
  | '.' :: cs => some (.any, cs)
  | '^' :: cs => some (.anchor, cs)
  | '$' :: cs => some (.anchor, cs)
  | '\x7b' :: _ => none
  | c :: cs => some (.literal ⟨c.toNat, false⟩, cs)

/-- Whether a character repeats the part before it. -/
def isRepetition (c : Char) : Bool := c == '?' || c == '*' || c == '+'

/-- Repeats the last one of some parts, which come last one first. -/
def repeatLast? : List Expression → Option (List Expression)
  | [] => none
  | .flags :: _ => none
  | e :: parts => some (.repeated e :: parts)

/-- Reads an expression up to the end of its group or of the text, given the branches before and the
parts of the last branch, both last one first. Every step takes a character, so the length is fuel
enough. -/
def readParts : Nat → Mode → List Expression → List Expression → List Char →
    Option (Expression × List Char)
  | fuel, m, branches, parts, cs =>
    let whole := Expression.alternation (.sequence parts.reverse :: branches).reverse
    match fuel, m.skip cs with
    | _, [] => some (whole, [])
    | _, ')' :: rest => some (whole, ')' :: rest)
    | 0, _ => none
    | fuel + 1, '|' :: rest => readParts fuel m (.sequence parts.reverse :: branches) [] rest
    | fuel + 1, '(' :: rest =>
      match openGroup? m rest with
      | none => none
      | some (.flags m rest) => readParts fuel m branches (.flags :: parts) rest
      | some (.group name inner rest) =>
        match readParts fuel inner [] [] rest with
        | some (e, ')' :: rest) => readParts fuel m branches (.group name e :: parts) rest
        | _ => none
    | fuel + 1, '[' :: rest =>
      match m.scanBracketed rest with
      | some (s, rest) => readParts fuel m branches (.set m.unicode s :: parts) rest
      | none => none
    | fuel + 1, c :: rest =>
      if isRepetition c then
        match repeatLast? parts with
        | some parts =>
          -- A question mark directly behind a repetition belongs to it.
          readParts fuel m branches parts (if rest.head? == some '?' then rest.tail else rest)
        | none => none
      else
        match scanAtom m (c :: rest) with
        | some (a, rest) => readParts fuel m branches (.atom m.unicode a :: parts) rest
        | none => none

def Expression.read (cs : List Char) : Option Expression :=
  match readParts cs.length .standard [] [] cs with
  | some (e, []) => some e
  | _ => none

/-- Whether a text is an expression of use. -/
def isRegular (cs : List Char) : Bool := (Expression.read cs).any Expression.isUsable

end ResourceApi.Regular
