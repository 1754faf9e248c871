import ResourceApi.Filter.Error
import ResourceApi.Filter.Expression
import ResourceApi.StableSort
import ResourceApi.Text.Ascii
import ResourceApi.Text.Split

/-!
# Filter keys

The spelling of filters in a query string. A key is a field name, which asks for equality, or a
field name followed by an operator in brackets. A field name is one or more identifiers joined by
points. Several filters are joined into one conjunction, whose leaves stand in a fixed order, so
that the order of the pairs in the query string does not matter.

## Main definitions

- `Filter.isFieldName` — the texts that can name a field
- `Filter.splitKey` — the field and the bracketed text of a key
- `Filter.readPair` — the comparison that one pair asks for
- `Filter.readPairs` — the conjunction that several pairs ask for
-/

namespace ResourceApi.Filter

/-- An identifier: a letter or underscore, then letters, digits and underscores, all ASCII. -/
def isIdentifier : List Char → Bool
  | [] => false
  | c :: cs => Text.isNameStart c && cs.all Text.isNamePart

def isFieldName (cs : List Char) : Bool := (Text.pieces '.' cs).all isIdentifier

/-- The field of a key and the text in its brackets, if the key has that shape. -/
def splitKey (key : List Char) : Option (List Char × Option (List Char)) :=
  match Text.cut '[' key with
  | none => if isFieldName key then some (key, none) else none
  | some (field, rest) =>
    match Text.cut ']' rest with
    | some (inner, []) =>
      if isFieldName field && !inner.contains '[' then some (field, some inner) else none
    | _ => none

/-- The comparison that a pair asks for, its operand as it is given. -/
def readPair (key operand : String) : Except Error (Comparison String) :=
  match splitKey key.toList with
  | none => .error (.malformedKey key)
  | some (field, none) => .ok ⟨String.ofList field, .eq, operand⟩
  | some (_, some []) => .error (.malformedKey key)
  | some (field, some inner) =>
    match Operator.ofToken? (String.ofList inner) with
    | some operator => .ok ⟨String.ofList field, operator, operand⟩
    | none => .error (.unknownOperator key (String.ofList inner))

/-- The fixed order of comparisons: by field, then operator, then operand. -/
def compareComparisons (a b : Comparison String) : Ordering :=
  (compare a.field b.field).then
    ((compare a.operator.rank b.operator.rank).then (compare a.operand b.operand))

/-- The comparisons of several pairs, in the order of the pairs; the first fault wins. -/
def readAll (pairs : List (String × String)) : Except Error (List (Comparison String)) :=
  pairs.mapM fun pair => readPair pair.1 pair.2

/-- The conjunction that several pairs ask for, or nothing if there are none. -/
def readPairs (pairs : List (String × String)) : Except Error (Option (Expression String)) := do
  match ← readAll pairs with
  | [] => pure none
  | leaves =>
    let sorted := stableSort (fun a b => compareComparisons a b == .lt) leaves
    pure (some (.all (sorted.map .comparison)))

end ResourceApi.Filter
