import ResourceApi.FieldType

/-!
# Filter operators

The comparisons that a filter key can ask for, their tokens in brackets, and the field types each
one applies to.

## Main definitions

- `Filter.Operator` — the eight operators, in the order in which filters are arranged
- `Filter.Operator.token`, `Filter.Operator.ofToken?` — the spelling in brackets
- `Filter.Operator.appliesTo` — the types an operator can be used with
-/

namespace ResourceApi.Filter

/-- A comparison. -/
inductive Operator where
  | eq
  | ne
  | gt
  | gte
  | lt
  | lte
  | like
  | among
deriving DecidableEq

namespace Operator

def all : List Operator := [.eq, .ne, .gt, .gte, .lt, .lte, .like, .among]

/-- The place of an operator in the order of operators. -/
def rank : Operator → Nat
  | .eq => 0
  | .ne => 1
  | .gt => 2
  | .gte => 3
  | .lt => 4
  | .lte => 5
  | .like => 6
  | .among => 7

/-- The spelling of an operator in a filter key. -/
def token : Operator → String
  | .eq => "eq"
  | .ne => "ne"
  | .gt => "gt"
  | .gte => "gte"
  | .lt => "lt"
  | .lte => "lte"
  | .like => "like"
  | .among => "in"

/-- The operator with the given spelling. Case matters and blanks are not trimmed. -/
def ofToken? (token : String) : Option Operator := all.find? fun op => op.token == token

/-- What is said about a text that spells no operator. -/
def unknownMessage (token : String) : String := "unknown operator '" ++ token ++ "'"

def isOrdering : Operator → Bool
  | .gt | .gte | .lt | .lte => true
  | _ => false

/-- Whether the operator can be used on a field of the given type. -/
def appliesTo (op : Operator) (type : FieldType) : Bool :=
  match op with
  | .eq | .ne | .among => true
  | .like => type == .text
  | .gt | .gte | .lt | .lte => type.isOrdered

end Operator

end ResourceApi.Filter
