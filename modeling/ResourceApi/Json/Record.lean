import ResourceApi.Json.Node

/-!
# Records

A record is a JSON object whose keys are known beforehand, or an array that gives the same fields by
position. A field may be missing, and `null` means the same as missing.

## Main definitions

- `Record` — the trees given for the fields of a record
- `Record.ofNode` — reads a record with known fields
- `Record.field` — the value of one field
-/

namespace ResourceApi.Json

/-- The trees given for the fields of a record, at most one for each. -/
structure Record where
  given : List (String × Node)

namespace Record

/-- The members of an object under their keys. Every key has to be a text. -/
def decodeKeys (members : List (Bytes × Node)) : Option (List (String × Node)) :=
  members.mapM fun member => (decode member.1).map fun key => (key, member.2)

def isUnambiguous : List (String × Node) → Bool
  | [] => true
  | (key, _) :: members => !(members.map Prod.fst).contains key && isUnambiguous members

/-- Reads a record with known fields, from an object or from an array of their values in order. -/
def ofNode (fields : List String) : Node → Option Record
  | .object members => do
    let members ← decodeKeys members
    -- Unknown keys are passed over, also when they are repeated.
    let known := members.filter fun member => fields.contains member.1
    if isUnambiguous known then some ⟨known⟩ else none
  | .array items => if items.length ≤ fields.length then some ⟨fields.zip items⟩ else none
  | _ => none

/-- The value of a field: `some none` if the field is missing, `none` if what is given for it has no
value of the kind that is asked for. -/
def field {α : Type} (r : Record) (name : String) (value? : Node → Option α) :
    Option (Option α) :=
  match r.given.lookup name with
  | none | some .null => some none
  | some node => (value? node).map some

def read (fields : List String) (body : Bytes) : Option Record :=
  (Node.read body).bind (ofNode fields)

end Record

end ResourceApi.Json
