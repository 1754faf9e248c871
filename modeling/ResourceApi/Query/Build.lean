import ResourceApi.Filter.Key
import ResourceApi.Filter.Satisfies
import ResourceApi.Query.Limits
import ResourceApi.Query.Parameter
import ResourceApi.Query.SortKey
import ResourceApi.Query.Window
import ResourceApi.Schema

/-!
# Queries

What a list request asks for: a filter, an order and a page. A query is built from the pairs of a
query string and the schema of a resource; either every pair is understood or there is no query.

## Main definitions

- `Query` — a filter, an order and a window, each of them optional
- `Query.readOperand` — the operand of a comparison, given the type of its field
- `Query.resolve` — a comparison of a query string as a comparison of values
- `Query.build` — the query that pairs ask for

## Design notes

Of several faults the first in this order is reported: contradicting parameters, the spelling of the
filters in the order of the pairs, the meaning of the filters in their fixed order, the order, the
page number, the page size.
-/

namespace ResourceApi

open ResourceApi.Filter

/-- What a list request asks for. -/
structure Query where
  filter : Option (Expression Value)
  sort : Option SortKey
  window : Option Window

namespace Query

def all : Query := ⟨none, none, none⟩

def comparisons (q : Query) : List (Comparison Value) :=
  match q.filter with
  | none => []
  | some e => e.leaves

def readValue (field : String) (type : FieldType) (raw : String) : Except Filter.Error Value :=
  match Value.read type raw with
  | some value => .ok value
  | none => .error (.invalidValue field raw type)

/-- Reads the items of a membership test, between commas. -/
def readItems (field : String) (type : FieldType) (raw : String) :
    Except Filter.Error (List Value) :=
  (Text.pieces ',' raw.toList).mapM fun item =>
    -- An empty item spoils the whole operand.
    if item.isEmpty then .error (.invalidValue field raw type)
    else readValue field type (String.ofList item)

def readOperand (field : String) (type : FieldType) (operator : Operator) (raw : String) :
    Except Filter.Error Value :=
  match operator with
  | .among => Value.list <$> readItems field type raw
  | _ => readValue field type raw

/-- Gives a comparison of a query string its meaning: the field has to be declared, the operator has
to apply to its type, and the operand has to be a literal of that type. -/
def resolve (schema : Schema) (c : Comparison String) :
    Except Filter.Error (Comparison Value) :=
  match schema.type? c.field with
  | none => .error (.unknownField c.field)
  | some type =>
    if c.operator.appliesTo type then do
      let operand ← readOperand c.field type c.operator c.operand
      .ok ⟨c.field, c.operator, operand⟩
    else .error (.operatorMismatch c.field c.operator type)

/-- Gives every comparison of a tree its meaning. -/
def resolveAll (schema : Schema) (e : Expression String) :
    Except Filter.Error (Expression Value) :=
  e.mapM (resolve schema)

def readFilter (schema : Schema) (pairs : List (String × String)) :
    Except Filter.Error (Option (Expression Value)) := do
  match ← readPairs pairs with
  | none => .ok none
  | some e => some <$> resolveAll schema e

/-- The order that parameters ask for. -/
def readSort (schema : Schema) (given : Parameters) : Except Filter.Error (Option SortKey) :=
  match given .sort with
  -- A direction without a field is not looked at.
  | none => .ok none
  | some field =>
    if schema.contains field then
      match given .order with
      | none => .ok (some ⟨field, .ascending⟩)
      | some raw =>
        match Direction.read raw with
        | .ok direction => .ok (some ⟨field, direction⟩)
        | .error _ => .error (.invalidParameter Parameter.order.key raw)
    else .error (.invalidParameter Parameter.sort.key field)

/-- Reads a parameter that has to be a positive number. -/
def readPositive (p : Parameter) (given : Parameters) : Except Filter.Error (Option Nat) :=
  match given p with
  | none => .ok none
  | some raw =>
    match (Number.readUnsigned Number.maxUInt32 raw.toList).filter (0 < ·) with
    | some n => .ok (some n)
    | none => .error (.invalidParameter p.key raw)

/-- The page that parameters ask for. There is none unless a number or a size is given. -/
def readWindow (limits : PageLimits) (given : Parameters) :
    Except Filter.Error (Option Window) := do
  let number ← readPositive .page given
  let size ← readPositive .pageSize given
  match number, size with
  | none, none => .ok none
  | _, _ =>
    .ok (some (Window.page (number.getD 1) (min (size.getD limits.standard) limits.greatest)))

def build (schema : Schema) (limits : PageLimits) (pairs : List (String × String)) :
    Except Filter.Error Query := do
  let (given, filters) ← Parameters.gather Parameters.none pairs
  let filter ← readFilter schema filters
  let sort ← readSort schema given
  let window ← readWindow limits given
  .ok ⟨filter, sort, window⟩

end Query

end ResourceApi
