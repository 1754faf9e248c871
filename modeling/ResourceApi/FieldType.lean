/-!
# Field types

The type a resource declares for a field decides which operators a filter may use on it and how the
text of a filter value is read.

## Main definitions

- `FieldType` — the six types
- `FieldType.isOrdered` — the types with a meaningful order
- `FieldType.text` — the name of a type in messages
-/

namespace ResourceApi

/-- The declared type of a field. -/
inductive FieldType where
  /-- Free text; the only type that patterns apply to. -/
  | text
  /-- An integer of 64 bits. -/
  | integer
  | float
  /-- One of `true` and `false`. -/
  | boolean
  | date
  | timestamp
deriving DecidableEq

namespace FieldType

def all : List FieldType := [.text, .integer, .float, .boolean, .date, .timestamp]

/-- Whether values of the type can be asked to be greater or less. -/
def isOrdered : FieldType → Bool
  | .integer | .float | .date | .timestamp => true
  | .text | .boolean => false

def name : FieldType → String
  | .text => "text"
  | .integer => "integer"
  | .float => "float"
  | .boolean => "boolean"
  | .date => "date"
  | .timestamp => "date-time"

end FieldType

end ResourceApi
