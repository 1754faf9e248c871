import ResourceApi.Number.Shortest
import ResourceApi.StableSort
import ResourceApi.Text.Blank
import ResourceApi.Text.Split

/-!
# Media ranges

The entries of an `Accept` header: a type and a subtype, either of which may be `*`, and a quality
between zero and one that ranks the entry among the others.

## Main definitions

- `MediaRange` — an entry
- `MediaRange.read`, `MediaRange.text` — its spelling
- `MediaRange.covers` — the concrete types that an entry stands for
- `MediaRange.readAll` — the entries of a header, best first
-/

namespace ResourceApi

open Number

/-- The precision in which qualities are kept. -/
abbrev Quality := Binary binary32

namespace Quality

/-- Whether a quality is greater than zero; NaN is not. -/
def isPositive (q : Quality) : Bool := (Binary.zero binary32).compare? q == some .lt

/-- Whether a quality is less than one; NaN is not. -/
def isLessThanOne (q : Quality) : Bool := q.compare? (Binary.one binary32) == some .lt

/-- The nearest number between zero and one. NaN is kept, and so is negative zero. -/
def clamp (q : Quality) : Quality :=
  if q.compare? (Binary.zero binary32) == some .lt then Binary.zero binary32
  else if (Binary.one binary32).compare? q == some .lt then Binary.one binary32
  else q

end Quality

/-- An entry of an `Accept` header. -/
structure MediaRange where
  /-- The type, folded, or `*`. -/
  main : List Char
  /-- The subtype, folded, or `*`. -/
  sub : List Char
  quality : Quality
deriving DecidableEq

namespace MediaRange

/-- Reads the parameters of an entry. The last quality counts; other parameters are ignored. -/
def readQuality (quality : Quality) : List (List Char) → Option Quality
  | [] => some quality
  | parameter :: parameters =>
    match Text.cut '=' parameter with
    | none => readQuality quality parameters
    | some (name, value) =>
      if Text.sameLetters (Text.trim name) ['q'] then
        match Binary.read binary32 (Text.trim value) with
        -- A quality that is no number spoils the entry.
        | none => none
        | some q => readQuality (Quality.clamp q) parameters
      else readQuality quality parameters

def read (raw : List Char) : Option MediaRange :=
  match Text.pieces ';' raw with
  | [] => none
  | name :: parameters =>
    match Text.cut '/' (Text.trim name) with
    | none => none
    | some (main, sub) =>
      let main := Text.trim main
      let sub := Text.trim sub
      if main.isEmpty || sub.isEmpty then none
      else (readQuality (Binary.one binary32) parameters).map fun quality =>
        ⟨Text.lower main, Text.lower sub, quality⟩

/-- The spelling of an entry; a quality of one is left out. -/
def text (r : MediaRange) : String :=
  String.ofList (r.main ++ '/' :: r.sub) ++
    if Quality.isLessThanOne r.quality then ";q=" ++ r.quality.text else ""

/-- Whether an entry is `*/*`. -/
def isCatchAll (r : MediaRange) : Bool := r.main == ['*'] && r.sub == ['*']

/-- Whether one half of an entry covers one half of a concrete type. -/
def coversHalf (pattern concrete : List Char) : Bool :=
  pattern == ['*'] || Text.sameLetters pattern concrete

/-- Whether an entry covers a concrete `type/subtype`. -/
def covers (r : MediaRange) (mediaType : String) : Bool :=
  match Text.cut '/' mediaType.toList with
  | none => false
  | some (main, sub) => coversHalf r.main main && coversHalf r.sub sub

/-- The entries of a header that ask for something, best first; entries of equal quality keep their
order. -/
def readAll (header : List Char) : List MediaRange :=
  stableSort (fun a b => b.quality.position < a.quality.position)
    (((Text.pieces ',' header).filterMap read).filter fun r => Quality.isPositive r.quality)

end MediaRange

end ResourceApi
