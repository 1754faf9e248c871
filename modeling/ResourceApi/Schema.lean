import Std.Data.ExtTreeMap
import ResourceApi.FieldType

/-!
# Schemas

The fields of a resource that filters and sort keys may name, with their types.

## Main definitions

- `Schema` — a finite map from field names to types
- `Schema.ofList` — the schema with the given fields; a repeated name keeps its last type
- `Schema.type?` — the type of a field
-/

namespace ResourceApi

/-- The filterable fields of a resource by name. -/
structure Schema where
  fields : Std.ExtTreeMap String FieldType

namespace Schema

def empty : Schema := ⟨∅⟩

def declare (s : Schema) (name : String) (type : FieldType) : Schema := ⟨s.fields.insert name type⟩

/-- The schema with the given fields, declared in order. -/
def ofList (fields : List (String × FieldType)) : Schema :=
  fields.foldl (fun s field => s.declare field.1 field.2) empty

/-- The type of a field, if it is declared. -/
def type? (s : Schema) (name : String) : Option FieldType := s.fields[name]?

def contains (s : Schema) (name : String) : Bool := (s.type? name).isSome

/-- The declared fields in the order of their names. -/
def toList (s : Schema) : List (String × FieldType) := s.fields.toList

def size (s : Schema) : Nat := s.fields.size

end Schema

end ResourceApi
