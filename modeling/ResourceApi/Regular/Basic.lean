/-!
# Regular expressions

What a regular expression consists of, and which expressions are of use: those that a finite
automaton can decide while it reads a text once.

## Main definitions

- `Literal`, `Atom`, `CharSet`, `Expression` — the parts of an expression
- `Expression.depth` — how deep the parts are nested
- `Expression.names` — the names of the groups
- `Expression.isDecidable` — whether an automaton can decide each part
- `Expression.isUsable` — whether an expression is of use

## Design notes

A part of an expression is about the characters of all scripts or about single bytes. What is about
bytes must not take apart a character of several bytes. An automaton looks one byte ahead. That is
enough to see where words of ASCII letters end, which is what parts about bytes ask for, but not
where words of all scripts do.
-/

namespace ResourceApi.Regular

/-- A character in an expression. -/
structure Literal where
  /-- Its code point. -/
  code : Nat
  /-- Whether it is written as the value of a byte. -/
  isByte : Bool
deriving DecidableEq

/-- Whether a character is one of ASCII. -/
def Literal.isAscii (l : Literal) : Bool := l.code < 0x80

/-- A part of an expression that is not put together from others. -/
inductive Atom where
  /-- A character. -/
  | literal (l : Literal)
  /-- Any character. -/
  | any
  /-- A digit, a blank or a part of a word; negated, any other character. -/
  | kind (negated : Bool)
  /-- A character of a general category, or any other character. -/
  | category
  /-- The start or the end of a line or of the text. -/
  | anchor
  /-- A border of a word, or any other place. -/
  | wordBoundary
deriving DecidableEq

/-- Whether an automaton can decide a part that is about all scripts or about bytes. -/
def Atom.isDecidable (unicode : Bool) : Atom → Bool
  | .literal l => unicode || !l.isByte || l.isAscii
  | .any => unicode
  | .kind negated => unicode || !negated
  | .category => unicode
  | .anchor => true
  | .wordBoundary => !unicode

/-- A set of characters. -/
inductive CharSet where
  /-- A single character. -/
  | literal (l : Literal)
  /-- The characters from one to another. -/
  | range (low high : Literal)
  /-- The characters of a kind, or all others. -/
  | kind (negated : Bool)
  /-- The characters of a general category, or all others. -/
  | category
  /-- The characters of several sets. -/
  | union (parts : List CharSet)
  /-- The characters of a set in brackets of its own, or all others. -/
  | bracketed (negated : Bool) (inner : CharSet)
  /-- The characters that two sets share, or those that only one of them has. -/
  | combined (left right : CharSet)

/-- How much deeper several parts side by side are nested than the deepest of them. -/
def sideBySide {α : Type} (parts : List α) : Nat := if 1 < parts.length then 1 else 0

namespace CharSet

mutual

/-- How deep the parts of a set are nested. -/
def depth : CharSet → Nat
  | .literal _ => 0
  | .range _ _ => 0
  | .kind _ => 0
  | .category => 0
  | .union parts => depthAll parts + sideBySide parts
  | .bracketed _ inner => inner.depth + 1
  | .combined left right => max left.depth right.depth + 1

/-- How deep the parts of several sets are nested. -/
def depthAll : List CharSet → Nat
  | [] => 0
  | part :: parts => max part.depth (depthAll parts)

end

mutual

/-- Whether a set is put together from characters of ASCII. -/
def isAscii : CharSet → Bool
  | .literal l => l.isAscii
  | .range low high => low.isAscii && high.isAscii
  | .kind negated => !negated
  | .category => false
  | .union parts => areAscii parts
  | .bracketed negated inner => !negated && inner.isAscii
  | .combined left right => left.isAscii && right.isAscii

/-- Whether several sets are put together from characters of ASCII. -/
def areAscii : List CharSet → Bool
  | [] => true
  | part :: parts => part.isAscii && areAscii parts

end

end CharSet

/-- A regular expression. Its smallest parts tell whether they are about the characters of all
scripts. -/
inductive Expression where
  /-- Flags, which change how the expression behind them is read. -/
  | flags
  /-- A part that is not put together from others. -/
  | atom (unicode : Bool) (a : Atom)
  /-- A character of a set. -/
  | set (unicode : Bool) (s : CharSet)
  /-- An expression a number of times. -/
  | repeated (e : Expression)
  /-- An expression in parentheses, which may have a name. -/
  | group (name : Option (List Char)) (inner : Expression)
  /-- Expressions one behind the other. -/
  | sequence (parts : List Expression)
  /-- One of several expressions. -/
  | alternation (parts : List Expression)

/-- How deep the parts of an expression of use are nested at most. -/
def maxDepth : Nat := 250

namespace Expression

mutual

/-- How deep the parts of an expression are nested. -/
def depth : Expression → Nat
  | .flags => 0
  | .atom _ _ => 0
  | .set _ s => s.depth
  | .repeated e => e.depth + 1
  | .group _ inner => inner.depth + 1
  | .sequence parts => depthAll parts + sideBySide parts
  | .alternation parts => depthAll parts + sideBySide parts

/-- How deep the parts of several expressions are nested. -/
def depthAll : List Expression → Nat
  | [] => 0
  | part :: parts => max part.depth (depthAll parts)

end

mutual

/-- The names of the groups in an expression. -/
def names : Expression → List (List Char)
  | .flags => []
  | .atom _ _ => []
  | .set _ _ => []
  | .repeated e => e.names
  | .group name inner => name.toList ++ inner.names
  | .sequence parts => namesAll parts
  | .alternation parts => namesAll parts

/-- The names of the groups in several expressions. -/
def namesAll : List Expression → List (List Char)
  | [] => []
  | part :: parts => part.names ++ namesAll parts

end

mutual

/-- Whether an automaton can decide each part of an expression. -/
def isDecidable : Expression → Bool
  | .flags => true
  | .atom unicode a => a.isDecidable unicode
  | .set unicode s => unicode || s.isAscii
  | .repeated e => e.isDecidable
  | .group _ inner => inner.isDecidable
  | .sequence parts => areDecidable parts
  | .alternation parts => areDecidable parts

/-- Whether an automaton can decide each part of several expressions. -/
def areDecidable : List Expression → Bool
  | [] => true
  | part :: parts => part.isDecidable && areDecidable parts

end

/-- Whether an expression is of use: an automaton can decide it, it is not nested too deep, and no
two groups share a name. -/
def isUsable (e : Expression) : Bool :=
  e.isDecidable && decide (e.depth ≤ maxDepth) && decide e.names.Nodup

end Expression

end ResourceApi.Regular
