import ResourceApi.Filter.Expression
import ResourceApi.Filter.Pattern
import ResourceApi.Value

/-!
# Satisfaction

When the fields of an entity satisfy a filter. An absent field satisfies no comparison, not even
`ne`; a comparison whose operand has the wrong shape for its operator is not satisfied either.

## Main definitions

- `Filter.Operator.test` — the meaning of an operator on two values
- `Filter.Comparison.satisfiedBy` — one comparison against the fields of an entity
- `Filter.Expression.satisfiedBy` — a whole tree
-/

namespace ResourceApi.Filter

/-- The meaning of an operator: `actual` is the field's value, `operand` the filter's. -/
def Operator.test (op : Operator) (actual operand : Value) : Bool :=
  match op with
  | .eq => actual.equals operand
  | .ne => !actual.equals operand
  | .gt => actual.compare? operand == some .gt
  | .gte => actual.compare? operand == some .gt || actual.compare? operand == some .eq
  | .lt => actual.compare? operand == some .lt
  | .lte => actual.compare? operand == some .lt || actual.compare? operand == some .eq
  | .like =>
    match actual, operand with
    | .text s, .text pattern => Filter.like s.toList pattern.toList
    | _, _ => false
  | .among =>
    match operand with
    | .list items => items.any fun item => item.equals actual
    | _ => false

def Comparison.satisfiedBy (field : String → Option Value) (c : Comparison Value) : Bool :=
  match field c.field with
  | none => false
  | some actual => c.operator.test actual c.operand

/-- Whether fields satisfy every comparison of a tree. -/
def Expression.satisfiedBy (field : String → Option Value) (e : Expression Value) : Bool :=
  e.holds (Comparison.satisfiedBy field)

end ResourceApi.Filter
