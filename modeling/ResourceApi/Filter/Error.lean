import ResourceApi.Filter.Operator

/-!
# Rejected queries

Why a query string is not understood. The first two causes are faults of spelling, found without
knowing the resource; the others need its schema or the meaning of the paging and sorting keys.

## Main definitions

- `Filter.Error` — the causes
- `Filter.Error.message` — their wording
- `Filter.Error.isSpelling` — the causes found without a schema
-/

namespace ResourceApi.Filter

/-- Why a query string is rejected. -/
inductive Error where
  /-- A key is neither a field nor a field with an operator in brackets. -/
  | malformedKey (key : String)
  | unknownOperator (key operator : String)
  | unknownField (field : String)
  /-- The operator does not apply to the field's type. -/
  | operatorMismatch (field : String) (operator : Operator) (type : FieldType)
  /-- The value is no literal of the field's type. -/
  | invalidValue (field value : String) (type : FieldType)
  /-- A paging or sorting key has an unusable value. -/
  | invalidParameter (key value : String)
deriving DecidableEq

namespace Error

/-- Whether the cause is a fault of spelling. -/
def isSpelling : Error → Bool
  | .malformedKey _ | .unknownOperator _ _ => true
  | _ => false

def message : Error → String
  | .malformedKey key => "malformed filter key '" ++ key ++ "'"
  | .unknownOperator key operator =>
    "unknown operator '" ++ operator ++ "' in filter key '" ++ key ++ "'"
  | .unknownField field => "unknown field '" ++ field ++ "'"
  | .operatorMismatch field operator type =>
    "operator '" ++ operator.token ++ "' cannot be applied to " ++ type.name ++ " field '"
      ++ field ++ "'"
  | .invalidValue field value type =>
    "value '" ++ value ++ "' for field '" ++ field ++ "' is not a valid " ++ type.name
  | .invalidParameter key value =>
    "invalid value '" ++ value ++ "' for parameter '" ++ key ++ "'"

end Error

end ResourceApi.Filter
