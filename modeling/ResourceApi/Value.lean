import ResourceApi.Calendar.Timestamp
import ResourceApi.FieldType
import ResourceApi.Number.Decimal

/-!
# Typed values

The values that fields hold and that filters compare them with. Values of one type are ordered
naturally; values of different types are ordered by type, and lists element by element. The order is
partial because a number may be NaN, and then equality fails too.

## Main definitions

- `Value` — a typed value
- `Value.compare?` — the partial order
- `Value.equals` — equality of values
- `Value.read` — the value that a text stands for, given a type

## Design notes

`compare?` and `equals` are defined apart from each other, by recursion on the same two values, so
that their agreement is a theorem rather than a convention.
-/

namespace ResourceApi

/-- A typed value. -/
inductive Value where
  | text (s : String)
  | integer (n : Int)
  | float (x : Number.Binary Number.binary64)
  | boolean (b : Bool)
  | date (d : Date)
  | timestamp (t : Timestamp)
  /-- Several values, the operand of a membership test. -/
  | list (items : List Value)

namespace Value

/-- The place of a value's type in the order of types. -/
def rank : Value → Nat
  | .text _ => 0
  | .integer _ => 1
  | .float _ => 2
  | .boolean _ => 3
  | .date _ => 4
  | .timestamp _ => 5
  | .list _ => 6

mutual

def compare? : Value → Value → Option Ordering
  | .text a, .text b => some (compare a b)
  | .integer a, .integer b => some (compare a b)
  | .float a, .float b => a.compare? b
  | .boolean a, .boolean b => some (compare a b)
  | .date a, .date b => some (a.compare b)
  | .timestamp a, .timestamp b => some (a.compare b)
  | .list a, .list b => compareAll? a b
  | a, b => some (compare a.rank b.rank)

/-- The partial order of lists: the first pair of items that differ or cannot be compared decides,
and a list comes before its continuations. -/
def compareAll? : List Value → List Value → Option Ordering
  | [], [] => some .eq
  | [], _ :: _ => some .lt
  | _ :: _, [] => some .gt
  | a :: as, b :: bs =>
    match compare? a b with
    | some .eq => compareAll? as bs
    | answer => answer

end

mutual

def equals : Value → Value → Bool
  | .text a, .text b => a == b
  | .integer a, .integer b => a == b
  | .float a, .float b => a.equals b
  | .boolean a, .boolean b => a == b
  | .date a, .date b => a == b
  | .timestamp a, .timestamp b => a == b
  | .list a, .list b => equalAll a b
  | _, _ => false

def equalAll : List Value → List Value → Bool
  | [], [] => true
  | a :: as, b :: bs => equals a b && equalAll as bs
  | _, _ => false

end

/-- The truth value that a text stands for, in any case. -/
def readBoolean (cs : List Char) : Option Bool :=
  let word := Text.lower cs
  if word == ['t', 'r', 'u', 'e'] then some true
  else if word == ['f', 'a', 'l', 's', 'e'] then some false
  else none

/-- The value of a type that a text stands for. Numbers have to be finite. -/
def read (type : FieldType) (raw : String) : Option Value :=
  match type with
  | .text => some (.text raw)
  | .integer => (Number.readInt64 raw.toList).map .integer
  | .float =>
    ((Number.Binary.read Number.binary64 raw.toList).filter Number.Binary.isFinite).map .float
  | .boolean => (readBoolean raw.toList).map .boolean
  | .date => (Date.read raw.toList).map .date
  | .timestamp => (Timestamp.read raw.toList).map .timestamp

end Value

end ResourceApi
