import ResourceApi.Journal
import ResourceApi.Number.Decimal
import ResourceApi.Regular.Read
import ResourceApi.Text.Alphanumeric
import ResourceApi.Text.Ascii
import ResourceApi.Text.Blank
import ResourceApi.Text.Split

/-!
# Log directives

Which events reach the log. A directive names a level, a target, or both; a target stands for every
part of the service whose name starts with it. Among the directives that fit an event the one with
the longest target decides.

A directive may also speak of spans, in brackets behind its target: by their name, by a field that
they have, or by the value of that field. An event is in no span while a server starts, so such a
directive lets no event through. Only one that asks for a field and nothing else is about events
too, those that have the field.

## Main definitions

- `Directive` — one directive about events
- `Directive.readAll` — reads directives parted by commas
- `Directive.ofLevel` — the directives that a setting asks for
- `Directive.admits` — whether an event reaches the log

## Design notes

Blanks at the ends of a directive do not take part when its parts are told from each other. The
parts are then cut out of the whole directive, at as many bytes from its start as they have in front
of them without the blanks. So a blank at the end belongs to the last part, and one at the start
spoils every part, or even tears a character apart. The parts are looked at from left to right, and
the first fault decides.
-/

namespace ResourceApi

/-- One directive about events. -/
structure Directive where
  /-- What the names of the parts start with; without it, all parts are meant. -/
  target : Option String
  /-- A field that the events have; without it, all events are meant. -/
  field : Option String
  /-- How much is let through: nothing at 0, every event at 5. -/
  verbosity : Nat
deriving DecidableEq

namespace Directive

def everything : Nat := 5

def levelNames : List String := ["off", "error", "warn", "info", "debug", "trace"]

/-- Reads a level by its name in any case, or by its number. -/
def readLevel (cs : List Char) : Option Nat :=
  match Number.readUnsigned everything cs with
  | some n => some n
  | none => levelNames.findIdx? fun name => Text.sameLetters name.toList cs

/-- Whether a directive may start with a character, unless it speaks of spans alone. -/
def isStart (c : Char) : Bool := Text.isAlphanumeric c || c == '-' || c == ':' || c == '_'

/-- Why directives are of no use. -/
inductive Fault where
  /-- One of them does not have the form of a directive. -/
  | unreadable
  /-- A part of one of them starts or ends inside a character. -/
  | torn
deriving DecidableEq

def byteCount (cs : List Char) : Nat := cs.foldl (fun count c => count + c.utf8Size) 0

def dropBytes : Nat → List Char → Except Fault (List Char)
  | 0, cs => .ok cs
  | _, [] => .error .torn
  | n, c :: cs => if c.utf8Size ≤ n then dropBytes (n - c.utf8Size) cs else .error .torn

/-- The part of a directive behind the place where `rest` starts in its shape. -/
def behind (whole shape rest : List Char) : Except Fault (List Char) :=
  dropBytes (byteCount shape - byteCount rest) whole

/-- The part of a directive from the place where `start` starts in its shape to the place where
`stop` does. -/
def between (whole shape start stop : List Char) : Except Fault (List Char) := do
  let part ← behind whole shape start
  let rest ← behind whole shape stop
  pure (part.take (part.length - rest.length))

/-- Whether a text can be the value of a field: a truth value, a number, or a regular expression. -/
def isValue (cs : List Char) : Bool :=
  (Number.readUnsigned Number.maxUInt64 cs).isSome || (Number.readInt64 cs).isSome
    || (Number.Binary.read Number.binary64 cs).isSome || Regular.isRegular cs

/-- Whether something is asked of the value of a field. -/
def asksForValue (field : List Char) : Except Fault Bool :=
  match Text.pieces '=' field with
  | _ :: value :: _ => if isValue value then pure true else throw .unreadable
  | _ => if field.isEmpty then throw .unreadable else pure false

/-- Reads the level behind a directive's target and spans. -/
def readRest (whole shape rest : List Char) : Except Fault Nat :=
  match rest with
  | [] => pure everything
  | '=' :: level => do
    let level ← behind whole shape level
    if level.isEmpty then pure everything
    else match readLevel level with
      | some n => pure n
      | none => throw .unreadable
  | _ => throw .unreadable

/-- Reads what a directive says of spans, behind the opening bracket, and yields the directive about
events, if there is one. -/
def readSpans (target : Option String) (whole shape cs : List Char) :
    Except Fault (Option Directive) :=
  let stop := cs.dropWhile fun c => c != ']' && c != '\x7b'
  match stop with
  | ']' :: rest => do
    let _ ← between whole shape cs stop
    let _ ← readRest whole shape rest
    pure none
  | '\x7b' :: fields => do
    let name ← between whole shape cs stop
    match fields.dropWhile (· != '\x7d') with
    | '\x7d' :: rest => do
      let field ← between whole shape fields ('\x7d' :: rest)
      let asks ← asksForValue field
      -- What is said of a named span or of a field's value is not said of events.
      match rest with
      | ']' :: rest => do
        let verbosity ← readRest whole shape rest
        pure (if asks || !name.isEmpty then none
          else some ⟨target, some (String.ofList field), verbosity⟩)
      | _ => throw .unreadable
    | _ => throw .unreadable
  | _ => throw .unreadable

/-- Reads one directive, and yields what it says about events, if it says anything. -/
def read (whole : List Char) : Except Fault (Option Directive) :=
  let shape := Text.trim whole
  match shape with
  | [] => throw .unreadable
  | '[' :: cs => readSpans none whole shape cs
  | c :: _ =>
    if isStart c then
      let stop := shape.dropWhile fun c => c != '=' && c != '['
      match stop with
      | [] =>
        match readLevel whole with
        | some n => pure (some ⟨none, none, n⟩)
        -- A word that is no level is a target, of which everything is let through.
        | none => pure (some ⟨some (String.ofList whole), none, everything⟩)
      | separator :: cs => do
        let target ← between whole shape shape stop
        let target := some (String.ofList target)
        if separator == '[' then readSpans target whole shape cs
        else do
          let verbosity ← readRest whole shape stop
          pure (some ⟨target, none, verbosity⟩)
    else throw .unreadable

/-- Reads directives parted by commas. Nothing between two commas is no directive. -/
def readAll (s : String) : Except Fault (List Directive) := do
  let directives ← ((Text.pieces ',' s.toList).filter fun piece => !piece.isEmpty).mapM read
  pure (directives.filterMap id)

/-- The directives that a setting asks for; none if one of them is torn. -/
def ofLevel (s : String) : Option (List Directive) :=
  match readAll s with
  | .ok directives => some directives
  -- If one cannot be read, the whole setting counts as `info`.
  | .error .unreadable => some [⟨none, none, Level.info.verbosity⟩]
  | .error .torn => none

/-- Whether a directive is about an event. -/
def fits (d : Directive) (e : Event) : Bool :=
  d.target.all (fun target => target.toList.isPrefixOf e.part.target.toList)
    -- The message of an event is one of its fields.
    && d.field.all fun field => field == "message" || (e.data.lookup field).isSome

/-- The length of a directive's target, if it has one. -/
def reach (d : Directive) : Nat :=
  match d.target with
  | none => 0
  | some target => target.utf8ByteSize + 1

/-- Whether a directive is at least as particular as another one about the same event. A longer
target counts most, then a field; of two fields the one later in the alphabet. -/
def outranks (d other : Directive) : Bool :=
  other.reach < d.reach || (d.reach == other.reach &&
    match other.field, d.field with
    | none, _ => true
    | some _, none => false
    | some f, some g => decide (f ≤ g))

/-- The directive that decides about an event: the most particular one, and of several the last. -/
def decisive (ds : List Directive) (e : Event) : Option Directive :=
  (ds.filter (·.fits e)).foldl (fun best d =>
    match best with
    | none => some d
    | some b => if d.outranks b then some d else best) none

def admits (ds : List Directive) (e : Event) : Bool :=
  match decisive ds e with
  | none => false
  | some d => e.level.verbosity ≤ d.verbosity

end Directive

end ResourceApi
