import ResourceApi.Number.Digits
import ResourceApi.Regular.Basic
import ResourceApi.Text.Blank

/-!
# Modes and escapes

Flags are letters between a question mark and the colon or parenthesis behind them. They change how
the rest of a group is read. In a verbose part blanks do not count, and neither does what stands
between `#` and the end of a line. A backslash changes what the character behind it stands for.

## Main definitions

- `Mode` — how an expression is read at some place
- `Mode.change` — the mode behind some flags
- `Mode.skip` — the text behind blanks and comments
- `Mode.scanEscape` — what a backslash stands for
-/

namespace ResourceApi.Regular

/-- How an expression is read at some place. -/
structure Mode where
  verbose : Bool
  /-- Whether the expression is about the characters of all scripts. -/
  unicode : Bool
deriving DecidableEq

/-- Whether some characters are flags: letters, each of them once, with at most one hyphen before
the last of them. -/
def areFlags (flags : List Char) : Bool :=
  flags.all (fun c => "imsUuRx-".toList.contains c) && decide flags.Nodup
    && flags.getLast? != some '-'

/-- Whether some flags switch one of them on. -/
def setting? (flags : List Char) (flag : Char) : Option Bool :=
  -- Those behind a hyphen are switched off.
  if flags.contains flag then some (!(flags.takeWhile (· != flag)).contains '-') else none

/-- The text behind blanks and comments, given whether it starts in a comment. A comment goes from
`#` to the end of its line. -/
def skipBlanks : Bool → List Char → List Char
  | _, [] => []
  | true, c :: cs => skipBlanks (c != '\n') cs
  | false, c :: cs =>
    if Text.isBlank c then skipBlanks false cs
    else if c == '#' then skipBlanks true cs
    else c :: cs

namespace Mode

/-- The mode at the start of an expression. -/
def standard : Mode := ⟨false, true⟩

def change (m : Mode) (flags : List Char) : Mode :=
  ⟨(setting? flags 'x').getD m.verbose, (setting? flags 'u').getD m.unicode⟩

/-- The text behind everything that does not count. -/
def skip (m : Mode) (cs : List Char) : List Char := if m.verbose then skipBlanks false cs else cs

/-- Reads digits of base sixteen. -/
def scanHex (m : Mode) : Nat → List Char → Option (List Char × List Char)
  | 0, cs => some ([], cs)
  | n + 1, cs =>
    -- Between the digits there may be what does not count.
    match m.skip cs with
    | [] => none
    | c :: cs =>
      if Number.isHexDigit c then (m.scanHex n cs).map fun (digits, rest) => (c :: digits, rest)
      else none

/-- Reads a character that is written as a code point. -/
def scanLiteral (m : Mode) (width : Nat) (cs : List Char) : Option (Atom × List Char) := do
  let (digits, rest) ← m.scanHex width cs
  let (code, _) ← Number.scanCodePoint width digits
  -- Two digits are the value of a byte.
  some (.literal ⟨code, width == 2⟩, rest)

def scanCategory (m : Mode) (cs : List Char) : Option (Atom × List Char) :=
  match m.skip cs with
  | [] => none
  | c :: rest => if "CLMNPSZ".toList.contains c.toUpper then some (.category, rest) else none

end Mode

/-- The characters that have letters of their own behind a backslash. -/
def controls : List (Char × Nat) :=
  [('a', 0x7), ('f', 0xC), ('t', 0x9), ('n', 0xA), ('r', 0xD), ('v', 0xB)]

/-- What a backslash and one character stand for. -/
def escaped? (c : Char) : Option Atom :=
  if "dsw".toList.contains c then some (.kind false)
  else if "DSW".toList.contains c then some (.kind true)
  else if "Az".toList.contains c then some .anchor
  else if "bB<>".toList.contains c then some .wordBoundary
  else match controls.lookup c with
    | some code => some (.literal ⟨code, false⟩)
    | none =>
      -- What is left of ASCII stands for itself, unless it is a letter or a digit.
      if c.toNat < 0x80 && !c.isAlphanum then some (.literal ⟨c.toNat, false⟩) else none

def Mode.scanEscape (m : Mode) : List Char → Option (Atom × List Char)
  | [] => none
  | 'x' :: cs => m.scanLiteral 2 cs
  | 'u' :: cs => m.scanLiteral 4 cs
  | 'U' :: cs => m.scanLiteral 8 cs
  | 'p' :: cs => m.scanCategory cs
  | 'P' :: cs => m.scanCategory cs
  | c :: cs => (escaped? c).map fun a => (a, cs)

end ResourceApi.Regular
