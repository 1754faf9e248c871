import ResourceApi.Text.Quoted
import ResourceApi.Text.Split

/-!
# Path patterns

Where something is mounted: a path in which parameters stand for segments. A parameter is a name
between braces at the end of a segment; a name behind an asterisk stands for the whole remainder of
a path. Two equal braces in a row are one brace of the text.

## Main definitions

- `Piece`, `Pattern` — a pattern as a list of pieces
- `Pattern.Fault` — why a text is no pattern
- `Pattern.read` — reads a pattern
- `Pattern.shown` — the text that names a pattern to a reader
- `Pattern.capture` — the values of the parameters at a path

## Design notes

A parameter takes a segment as far as it goes. Only a parameter at the end of a pattern needs to
find something there: in `/{a}/b` the parameter `a` may be empty.
-/

namespace ResourceApi

/-- A piece of a pattern. -/
inductive Piece where
  | text (cs : List Char)
  /-- A named segment, or the end of one. -/
  | parameter (name : List Char)
  | remainder (name : List Char)
deriving DecidableEq

/-- A pattern for paths. -/
abbrev Pattern := List Piece

namespace Pattern

/-- Why a text is no pattern. -/
inductive Fault where
  /-- A segment starts with a colon. -/
  | colon
  /-- A segment starts with an asterisk. -/
  | asterisk
  /-- A parameter has no name, or a brace has no partner. -/
  | unnamed
  /-- Something follows a parameter in its segment. -/
  | crowded
  /-- Something follows a remainder. -/
  | trailing
  /-- There are more parameters than `maxParameters`. -/
  | excess
deriving DecidableEq

def maxParameters : Nat := 25

/-- A character of a pattern. -/
inductive Sign where
  | plain (c : Char)
  | opening
  | closing
deriving DecidableEq

/-- The character that a sign is written with. -/
def Sign.char : Sign → Char
  | .plain c => c
  | .opening => '\x7b'
  | .closing => '\x7d'

/-- The signs of a text. -/
def signs : List Char → List Sign
  -- Two equal braces in a row are a plain brace.
  | '\x7b' :: '\x7b' :: cs => .plain '\x7b' :: signs cs
  | '\x7d' :: '\x7d' :: cs => .plain '\x7d' :: signs cs
  | '\x7b' :: cs => .opening :: signs cs
  | '\x7d' :: cs => .closing :: signs cs
  | c :: cs => .plain c :: signs cs
  | [] => []

/-- Reads the rest of a name up to its closing brace, given the characters before it. -/
def scanName (name : List Char) : List Sign → Except Fault (List Char × List Sign)
  | [] => .error .unnamed
  | .closing :: rest =>
    if name.getLast? == some '*' then .error .unnamed
    else match rest with
      | [] => .ok (name, [])
      | s :: _ => if s == .plain '/' then .ok (name, rest) else .error .crowded
  | s :: rest =>
    if s == .plain '*' || s == .plain '/' then .error .unnamed
    else scanName (name ++ [s.char]) rest

def scanParameter : List Sign → Except Fault (Piece × List Sign)
  | [] => .error .unnamed
  | s :: rest => do
    if s.char == '\x7d' then throw .unnamed
    let (name, rest) ← scanName [s.char] rest
    match name with
    | '*' :: name => pure (.remainder name, rest)
    | _ => pure (.parameter name, rest)

/-- Puts a character in front of a pattern. -/
def push (c : Char) : Pattern → Pattern
  | .text cs :: pieces => .text (c :: cs) :: pieces
  | pieces => .text [c] :: pieces

/-- Reads signs with at most `room` parameters among them. Every step takes a sign, so their number
is fuel enough. -/
def scanPieces : Nat → Nat → List Sign → Except Fault Pattern
  | _, _, [] => .ok []
  | 0, _, _ => .error .unnamed
  | _, _, .closing :: _ => .error .unnamed
  | fuel + 1, room, .plain c :: rest => do
    let pieces ← scanPieces fuel room rest
    pure (push c pieces)
  | fuel + 1, room, .opening :: rest => do
    let (piece, rest) ← scanParameter rest
    match piece, room with
    | .parameter _, 0 => throw .excess
    | .parameter _, room + 1 => do
      let pieces ← scanPieces fuel room rest
      pure (piece :: pieces)
    | _, _ => do
      let pieces ← scanPieces fuel room rest
      pure (piece :: pieces)

/-- Whether a pattern goes on behind a remainder. -/
def hasTrail : Pattern → Bool
  | .remainder _ :: pieces => !pieces.isEmpty
  | _ :: pieces => hasTrail pieces
  | [] => false

/-- Whether there is a remainder in a pattern. -/
def hasRemainder (pattern : Pattern) : Bool :=
  pattern.any fun
    | .remainder _ => true
    | _ => false

def parameterCount (pattern : Pattern) : Nat :=
  pattern.countP fun
    | .parameter _ => true
    | _ => false

/-- What segments that start with a character are refused for. -/
def segmentFault? (segment : List Char) : Option Fault :=
  match segment with
  | ':' :: _ => some .colon
  | '*' :: _ => some .asterisk
  | _ => none

def read (cs : List Char) : Except Fault Pattern :=
  match (Text.pieces '/' cs).findSome? segmentFault? with
  | some fault => .error fault
  | none => do
    let pattern ← scanPieces cs.length maxParameters (signs cs)
    if hasTrail pattern then throw .trailing
    pure pattern

/-- The text of a piece, with plain braces as single ones. -/
def shownPiece : Piece → List Char
  | .text cs => cs
  | .parameter name => '\x7b' :: name ++ ['\x7d']
  | .remainder name => '\x7b' :: '*' :: name ++ ['\x7d']

/-- Shows a piece behind the text of the pieces before it. -/
def showBehind (before : List Char) (piece : Piece) : List Char :=
  match piece with
  | .remainder _ =>
    -- It is not shown behind a text that already ends with its own text.
    if (shownPiece piece).isSuffixOf before then before else before ++ shownPiece piece
  | _ => before ++ shownPiece piece

/-- The text of a pattern, with plain braces as single ones. -/
def shown (pattern : Pattern) : List Char := pattern.foldl showBehind []

/-- The values of the parameters at a path, if the pattern fits it. -/
def capture : Pattern → List Char → Option (List (List Char × List Char))
  | [], path => if path.isEmpty then some [] else none
  | .text cs :: pieces, path =>
    if cs.isPrefixOf path then capture pieces (path.drop cs.length) else none
  | .remainder name :: _, path => if path.isEmpty then none else some [(name, path)]
  | .parameter name :: pieces, path =>
    let value := path.takeWhile (· != '/')
    let rest := path.dropWhile (· != '/')
    if pieces.isEmpty && value.isEmpty then none
    else (capture pieces rest).map ((name, value) :: ·)

end Pattern

end ResourceApi
