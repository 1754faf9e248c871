import ResourceApi.StableSort
import ResourceApi.Text.Ascii
import ResourceApi.Value

/-!
# Sorting

The order that a list request asks for: one field, ascending or descending. Entities without the
field come first when ascending and last when descending; entities whose values are equal, or cannot
be compared, keep the order they had.

## Main definitions

- `Direction`, `Direction.read` — ascending or descending
- `SortKey` — a field and a direction
- `SortKey.apply` — a list in the order asked for

## Design notes

A NaN can be compared to nothing and so counts as equal to every value. With one among the values of
the field, what is before what is no strict weak order: two entities may both be equal to a third
and yet be ordered. What `SortKey.apply` gives then is what `stableSort` makes of it. A sort that
goes about it in another way may leave the entities in another order, or refuse.
-/

namespace ResourceApi

/-- Ascending or descending. -/
inductive Direction where
  | ascending
  | descending
deriving DecidableEq

namespace Direction

def token : Direction → String
  | .ascending => "asc"
  | .descending => "desc"

/-- Reads a direction in any case; a text that is none comes back folded. -/
def read (raw : String) : Except String Direction :=
  let word := Text.lower raw.toList
  if word == ['a', 's', 'c'] then .ok .ascending
  else if word == ['d', 'e', 's', 'c'] then .ok .descending
  else .error (String.ofList word)

/-- What is said about a text that spells no direction. -/
def invalidMessage (word : String) : String := "invalid sort order '" ++ word ++ "'"

end Direction

/-- The order that a list request asks for. -/
structure SortKey where
  field : String
  direction : Direction
deriving DecidableEq

namespace SortKey

def text (s : SortKey) : String := s.field ++ " " ++ s.direction.token

/-- The order of optional values: an absent value comes before every present one, and values that
cannot be compared count as equal. -/
def compareFields : Option Value → Option Value → Ordering
  | none, none => .eq
  | none, some _ => .lt
  | some _, none => .gt
  | some a, some b => (a.compare? b).getD .eq

/-- Whether an entity has to stand before another one. -/
def before {E : Type} (field : E → String → Option Value) (s : SortKey) (a b : E) : Bool :=
  match s.direction with
  | .ascending => compareFields (field a s.field) (field b s.field) == .lt
  | .descending => compareFields (field a s.field) (field b s.field) == .gt

def apply {E : Type} (field : E → String → Option Value) (s : SortKey) (items : List E) : List E :=
  stableSort (s.before field) items

end SortKey

end ResourceApi
