import ResourceApi.Media.Representation
import ResourceApi.Resource.Problem

/-!
# Grants and responses

A grant is what a request to a resource leads to when it is not refused. A response is what goes
over the wire, for granted and refused requests alike.

## Main definitions

- `Rendering` — a body in one of the representations
- `Grant` — a granted request
- `Response` — a status, the headers the service sets, and a body
- `Response.ofGrant`, `Response.ofProblem` — responses for granted and refused requests
-/

namespace ResourceApi

/-- A body in one of the representations. -/
structure Rendering where
  form : Representation
  bytes : Bytes
deriving DecidableEq

/-- A granted request. -/
structure Grant where
  status : Nat
  body : Option Rendering
  location : Option String
deriving DecidableEq

namespace Grant

def ok (body : Rendering) : Grant := ⟨200, some body, none⟩

def created (body : Rendering) : Grant := ⟨201, some body, none⟩

def noContent : Grant := ⟨204, none, none⟩

end Grant

/-- What goes over the wire. -/
structure Response where
  status : Nat
  /-- The header `content-type`. -/
  contentType : Option String
  /-- The header `vary`. -/
  vary : Option String
  /-- The header `location`. -/
  location : Option String
  /-- The header `allow`. -/
  allow : Option String
  body : Bytes
deriving DecidableEq

namespace Response

def bare (status : Nat) : Response := ⟨status, none, none, none, none, []⟩

/-- Whether a text may stand in a header: it holds no control character but the tab. -/
def isHeaderText (s : String) : Bool :=
  s.toList.all fun c => c == '\t' || (c.toNat != 127 && 32 ≤ c.toNat)

/-- The response for a granted request. A location that may not stand in a header is left out. -/
def ofGrant (r : Grant) : Response where
  status := r.status
  contentType := r.body.map fun body => body.form.mediaType
  -- What is shown depends on the header `accept`, which a cache has to know.
  vary := r.body.map fun _ => "accept"
  location := r.location.filter isHeaderText
  allow := none
  body := match r.body with
    | some body => body.bytes
    | none => []

/-- The response for a refused request, in JSON whatever the client accepts. -/
def ofProblem (p : Problem) : Response where
  status := p.status
  contentType := some Representation.json.mediaType
  vary := none
  location := none
  allow := none
  body := p.node.bytes

end Response

end ResourceApi
