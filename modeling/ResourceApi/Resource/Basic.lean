import ResourceApi.Query.Build
import ResourceApi.Resource.Violations

/-!
# Resources

What the service has to know about one kind of entity: how an entity is shown and how a client's
document becomes one, which rules a document has to keep, which fields can be filtered, and what may
be deleted. The service itself knows nothing else about entities.

## Main definitions

- `Resource E D` — a kind of entities `E`, shown and given as documents `D`

## Design notes

Making an entity from a document may crash, and writing a document as JSON may fail. Everything else
about a resource is a plain function.
-/

namespace ResourceApi

/-- A kind of entities and the documents that clients exchange with the service about them. -/
structure Resource (E D : Type) where
  /-- The name in messages. -/
  name : String
  /-- The fields that can be filtered. -/
  schema : Schema
  /-- The identifier of an entity. -/
  identify : E → Int
  /-- The identifier that a document claims. -/
  claimedId : D → Option Int
  /-- The document that shows an entity. -/
  present : E → D
  /-- The entity that a document describes, under the identifier of the path if there is one. -/
  create : D → Option Int → Except String E
  /-- An entity with the parts that a document gives. -/
  merge : E → D → Except String E
  /-- The rules for new entities. -/
  checkCreate : D → Except Violations Unit
  /-- The rules for entities that take the place of others. -/
  checkUpdate : D → Except Violations Unit
  /-- The rules for documents that give some parts. -/
  checkPartial : D → Except Violations Unit
  /-- The document that a body consists of. -/
  read : Bytes → Option D
  /-- A document as JSON, or why there is none. -/
  json : D → Except String Json.Node
  /-- A document as XML. -/
  xml : D → String
  /-- Several documents as XML. -/
  xmlList : List D → String
  /-- The query that the pairs of a query string ask for. -/
  query : Schema → PageLimits → List (String × String) → Except Filter.Error Query
  /-- Whether entities may be deleted at all. -/
  deletionAllowed : Bool
  /-- Whether an entity may be deleted. -/
  deletable : Int → Bool

end ResourceApi
