import ResourceApi.Media.Range

/-!
# Representations

The forms in which a resource can be shown, and the choice among them. JSON is the standard form.
XML is chosen only where the client ranks an entry that covers XML before every entry that covers
JSON; the entry `*/*` chooses nothing.

## Main definitions

- `Representation` — JSON or XML
- `Representation.choose` — the choice among entries in order
- `Representation.negotiate` — the choice for a header
-/

namespace ResourceApi

/-- A form in which a resource can be shown. -/
inductive Representation where
  /-- JSON, the standard form. -/
  | json
  /-- XML. -/
  | xml
deriving DecidableEq

namespace Representation

/-- The form shown where nothing else is asked for. -/
def standard : Representation := .json

/-- The media type of a form. -/
def mediaType : Representation → String
  | .json => "application/json"
  | .xml => "application/xml"

/-- The choice among entries, best first. -/
def choose : List MediaRange → Representation
  | [] => .json
  | r :: ranges =>
    if r.isCatchAll then choose ranges
    -- An entry that covers both forms chooses JSON.
    else if r.covers (mediaType .json) then .json
    else if r.covers (mediaType .xml) then .xml
    else choose ranges

/-- The entries of a header, best first; a missing header has none. -/
def ranges (header : Option String) : List MediaRange :=
  match header with
  | none => []
  | some h => MediaRange.readAll h.toList

/-- The choice for a header. -/
def negotiate (header : Option String) : Representation := choose (ranges header)

end Representation

end ResourceApi
