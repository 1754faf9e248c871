import ResourceApi.Regular.Escape
import ResourceApi.Text.Split

/-!
# Sets of characters in brackets

Between brackets stand characters, ranges of characters, kinds of characters, further sets in
brackets, and operators on all that stands to their left and right.

## Main definitions

- `Mode.openSet` — what may only stand at the start of a set
- `Mode.scanPart` — a character or a range of them
- `Mode.scanSet` — a set up to its closing bracket
-/

namespace ResourceApi.Regular

/-- The names of the kinds of characters that stand between `[:` and `:]`. -/
def kindNames : List String :=
  ["alnum", "alpha", "ascii", "blank", "cntrl", "digit", "graph", "lower", "print", "punct",
   "space", "upper", "word", "xdigit"]

/-- Reads a kind of characters by its name, behind the opening bracket. -/
def scanKind : List Char → Option (CharSet × List Char)
  | ':' :: cs =>
    let (negated, cs) := match cs with
      | '^' :: cs => (true, cs)
      | _ => (false, cs)
    match Text.cut ':' cs with
    | some (name, ']' :: rest) =>
      if kindNames.contains (String.ofList name) then some (.kind negated, rest) else none
    | _ => none
  | _ => none

/-- The set of the characters that a part stands for. A place between characters is none. -/
def Atom.toSet? : Atom → Option CharSet
  | .literal l => some (.literal l)
  | .kind negated => some (.kind negated)
  | .category => some .category
  | .any => none
  | .anchor => none
  | .wordBoundary => none

/-- The set of the characters between two parts. -/
def rangeBetween? : Atom → Atom → Option CharSet
  | .literal low, .literal high => if low.code ≤ high.code then some (.range low high) else none
  | _, _ => none

/-- The set of all parts behind the last operator, joined with what is on its left. The parts come
last one first. -/
def joinParts (left : Option CharSet) (parts : List CharSet) : CharSet :=
  match left with
  | none => .union parts.reverse
  | some left => .combined left (.union parts.reverse)

namespace Mode

/-- The text behind hyphens at the start of a set, with each of them as a part of the set. -/
def leadingHyphens (m : Mode) : Nat → List CharSet → List Char → List CharSet × List Char
  | fuel + 1, parts, '-' :: cs =>
    m.leadingHyphens fuel (.literal ⟨'-'.toNat, false⟩ :: parts) (m.skip cs)
  | _, parts, cs => (parts, cs)

/-- Reads what may only stand at the start of a set, behind the opening bracket: a circumflex, which
negates the set, and hyphens, or in their place a closing bracket. Every hyphen takes a character,
so the length is fuel enough. -/
def openSet (m : Mode) (cs : List Char) : Bool × List CharSet × List Char :=
  let (negated, cs) := match m.skip cs with
    | '^' :: cs => (true, m.skip cs)
    | cs => (false, cs)
  match m.leadingHyphens cs.length [] cs with
  | ([], ']' :: cs) => (negated, [.literal ⟨']'.toNat, false⟩], cs)
  | (parts, cs) => (negated, parts, cs)

/-- Reads one character, or the characters of one kind. -/
def scanMember (m : Mode) : List Char → Option (Atom × List Char)
  | [] => none
  | '\\' :: cs => m.scanEscape cs
  | c :: cs => some (.literal ⟨c.toNat, false⟩, cs)

/-- The character that decides whether a hyphen in front of a text means a range. -/
def decider? (m : Mode) (cs : List Char) : Option Char :=
  if m.verbose then
    -- The blanks around a number sign are passed over with it, as if no comment started there.
    match cs.dropWhile Text.isBlank with
    | '#' :: cs => (cs.dropWhile Text.isBlank).head?
    | cs => cs.head?
  else cs.head?

/-- Reads a part of a set: a range, or what stands alone. -/
def scanPart (m : Mode) (cs : List Char) : Option (CharSet × List Char) := do
  let (low, rest) ← m.scanMember cs
  let alone := low.toSet?.map fun s => (s, rest)
  match m.skip rest with
  | '-' :: more =>
    -- A hyphen before another one or before the closing bracket means no range.
    if m.decider? more == some ']' || m.decider? more == some '-' then alone
    else do
      let (high, rest) ← m.scanMember (m.skip more)
      let s ← rangeBetween? low high
      some (s, rest)
  | _ => alone

/-- Reads a set up to its closing bracket, given the set on the left of the last operator and the
parts since then, last one first. Every step takes a character, so the length is fuel enough. -/
def scanSet (m : Mode) : Nat → Option CharSet → List CharSet → List Char →
    Option (CharSet × List Char)
  | 0, _, _, _ => none
  | fuel + 1, left, parts, cs =>
    match m.skip cs with
    | [] => none
    | ']' :: rest => some (joinParts left parts, rest)
    | '[' :: rest =>
      match scanKind rest with
      | some (s, rest) => m.scanSet fuel left (s :: parts) rest
      | none =>
        let (negated, start, rest) := m.openSet rest
        match m.scanSet fuel none start rest with
        | some (s, rest) => m.scanSet fuel left (.bracketed negated s :: parts) rest
        | none => none
    | '&' :: '&' :: rest => m.scanSet fuel (some (joinParts left parts)) [] rest
    | '-' :: '-' :: rest => m.scanSet fuel (some (joinParts left parts)) [] rest
    | '~' :: '~' :: rest => m.scanSet fuel (some (joinParts left parts)) [] rest
    | cs =>
      match m.scanPart cs with
      | some (s, rest) => m.scanSet fuel left (s :: parts) rest
      | none => none

/-- Reads a whole set, behind its opening bracket. -/
def scanBracketed (m : Mode) (cs : List Char) : Option (CharSet × List Char) :=
  let (negated, start, rest) := m.openSet cs
  (m.scanSet cs.length none start rest).map fun (s, rest) => (.bracketed negated s, rest)

end Mode

end ResourceApi.Regular
