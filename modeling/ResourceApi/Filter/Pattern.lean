/-!
# Patterns

Patterns of the operator `like`. In a pattern `%` stands for any run of characters, `_` for exactly
one character, and every other character for itself. A pattern has to fit the whole text, and no
character of a pattern is escaped.

## Main definitions

- `Filter.Fits` — what it means for a pattern to fit a text
- `Filter.Cursor`, `Filter.Cursor.turn` — where the matcher stands, and what it does in one turn
- `Filter.answer?` — the answer of the matcher within a number of turns
- `Filter.like` — the matcher

## Design notes

The matcher walks through text and pattern side by side as long as they agree. Where they do not, it
goes back to the last run that it has passed, and no further: that run takes one more character, and
what stands behind it in the pattern is tried again. Places in text and pattern are plain numbers,
and a place outside is an error of its own, so that it takes a proof that the matcher stays inside.
-/

namespace ResourceApi.Filter

/-- What it means for a pattern to fit a text. -/
inductive Fits : List Char → List Char → Prop where
  /-- The empty pattern fits the empty text. -/
  | nil : Fits [] []
  /-- A run may be empty. -/
  | runEnd {pattern text} : Fits pattern text → Fits ('%' :: pattern) text
  /-- A run may take one more character. -/
  | runStep {pattern c text} : Fits ('%' :: pattern) text → Fits ('%' :: pattern) (c :: text)
  /-- An underscore takes any one character. -/
  | single {pattern c text} : Fits pattern text → Fits ('_' :: pattern) (c :: text)
  /-- Any other character takes itself. -/
  | literal {pattern c text} : c ≠ '%' → c ≠ '_' → Fits pattern text →
      Fits (c :: pattern) (c :: text)

/-! ## Places -/

/-- A place outside a text of some length. -/
structure OutOfBounds where
  index : Nat
  length : Nat
deriving DecidableEq

/-- The character at a place. -/
def charAt (cs : Array Char) (i : Nat) : Except OutOfBounds Char :=
  match cs[i]? with
  | some c => .ok c
  | none => .error ⟨i, cs.size⟩

/-- The characters from a place on. The place may be the end. -/
def charsFrom (cs : Array Char) (i : Nat) : Except OutOfBounds (List Char) :=
  if i ≤ cs.size then .ok (cs.toList.drop i) else .error ⟨i, cs.size⟩

/-! ## The matcher -/

/-- A run that the matcher has passed. -/
structure Run where
  /-- The place of the run in the pattern. -/
  place : Nat
  /-- The place in the text up to which the run takes it. -/
  upTo : Nat
deriving DecidableEq

/-- Where the matcher stands in text and pattern, and the last run it has passed. -/
structure Cursor where
  text : Nat
  pattern : Nat
  run? : Option Run
deriving DecidableEq

namespace Cursor

def start : Cursor := ⟨0, 0, none⟩

/-- Behind the next character of text and pattern. -/
def advance (c : Cursor) : Cursor := ⟨c.text + 1, c.pattern + 1, c.run?⟩

/-- Behind a run that stands here and takes nothing yet. -/
def passRun (c : Cursor) : Cursor := ⟨c.text, c.pattern + 1, some ⟨c.pattern, c.text⟩⟩

/-- Behind the last run, which takes one more character; nowhere if no run has been passed. -/
def goBack? (c : Cursor) : Option Cursor :=
  c.run?.map fun run => ⟨run.upTo + 1, run.place + 1, some ⟨run.place, run.upTo + 1⟩⟩

end Cursor

/-- What comes of a turn: the matcher goes on, or it has its answer. -/
inductive Turn where
  | go (c : Cursor)
  | stop (fits : Bool)
deriving DecidableEq

namespace Cursor

/-- The turn of a matcher whose text and pattern do not agree where it stands. -/
def retry (c : Cursor) : Turn :=
  match c.goBack? with
  | some back => .go back
  | none => .stop false

/-- One turn of the matcher. -/
def turn (text pattern : Array Char) (c : Cursor) : Except OutOfBounds Turn :=
  if c.text < text.size then
    match pattern[c.pattern]? with
    | none => .ok c.retry
    | some p =>
      if p = '%' then .ok (.go c.passRun)
      else if p = '_' then .ok (.go c.advance)
      else do
        let x ← charAt text c.text
        if p = x then .ok (.go c.advance) else .ok c.retry
  else do
    -- The text is at its end, so all that may be left of the pattern is runs.
    let rest ← charsFrom pattern c.pattern
    .ok (.stop (rest.all (· == '%')))

end Cursor

/-- The answer of the matcher from a cursor on, if it has one within a number of turns. -/
def answer? (text pattern : Array Char) : Nat → Cursor → Option (Except OutOfBounds Bool)
  | 0, _ => none
  | turns + 1, c =>
    match c.turn text pattern with
    | .error fault => some (.error fault)
    | .ok (.stop fits) => some (.ok fits)
    | .ok (.go next) => answer? text pattern turns next

/-- How many turns the matcher takes at most. Each character of the pattern may become the last run,
which then takes one character of the text after the other; in between, the matcher walks through
the pattern. -/
def maxTurns (text pattern : Array Char) : Nat :=
  (pattern.size + 1) * (text.size + 1) * (pattern.size + 1)

/-- Whether a pattern fits a whole text. -/
def like (text pattern : List Char) : Bool :=
  match answer? text.toArray pattern.toArray (maxTurns text.toArray pattern.toArray) .start with
  | some (.ok fits) => fits
  | _ => false

end ResourceApi.Filter
