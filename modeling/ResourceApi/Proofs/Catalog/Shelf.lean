import ResourceApi.Catalog.Book
import ResourceApi.Resource.Service

/-!
# The shelf

What the service of a library amounts to when nothing goes wrong inside it: books under identifiers
and a counter. There are no calls, no transactions and no failures on a shelf.

## Main definitions

- `Shelf` — books by identifier, and the next identifier
- `Shelf.ofList` — the shelf that given books are put on
- `Shelf.select` — the books that a query selects
- `Shelf.serve` — what a request is answered, and the shelf behind it
-/

namespace ResourceApi

/-- Books by identifier, and the identifier of the next new book. -/
structure Shelf where
  books : Std.ExtTreeMap Int Book
  counter : Int

namespace Shelf

/-- The shelf that books are put on one after the other. The counter is the least positive number
behind all of them. -/
def ofList (books : List Book) : Shelf where
  books := books.foldl (fun held b => held.insert b.id b) ∅
  counter := books.foldl (fun counter b => max counter (b.id + 1)) 1

/-- The books that a query selects: those that satisfy its filter, arranged in its order, and of
those the ones inside its window. Books stand in the order of their identifiers. -/
def select (shelf : Shelf) (q : Query) : List Book :=
  let books := shelf.books.toList.map Prod.snd
  let chosen := books.filter fun b => q.filter.all fun e => e.satisfiedBy b.field
  let arranged := q.sort.elim chosen fun key => key.apply Book.field chosen
  q.window.elim arranged fun window => window.apply arranged

/-- Why a request is refused, or what it is granted. -/
abbrev Outcome := Except Problem.Kind Grant

/-- A body in the representation that a client prefers. -/
def present (accept : Option String) (json : Json.Node) (xml : String) : Rendering :=
  match Representation.negotiate accept with
  | .xml => ⟨.xml, Text.utf8 xml⟩
  | .json => ⟨.json, json.bytes⟩

def showOne (accept : Option String) (b : Book) : Rendering :=
  present accept b.draft.json b.draft.xml

def showAll (accept : Option String) (books : List Book) : Rendering :=
  present accept (.array (books.map fun b => b.draft.json))
    (Book.Draft.xmlList (books.map Book.draft))

/-- Where a book is found, if anybody is told. -/
def location? (options : Options) (id : Int) : Option String :=
  options.basePath.map fun base =>
    String.ofList (Text.dropEndWhile (· == '/') base.toList) ++ "/" ++ Number.decimal id

/-- The draft in a body, if there is one and it keeps the rules. -/
def accepted (rules : Book.Draft → Except Violations Unit) (body : Bytes) : Option Book.Draft :=
  (Book.Draft.read body).filter fun d => (rules d).isOk

/-- The draft in a body about the book under an identifier: it must not claim another one. -/
def acceptedFor (rules : Book.Draft → Except Violations Unit) (id : Int) (body : Bytes) :
    Option Book.Draft :=
  (accepted rules body).filter fun d => d.id.all (· == id)

/-- The shelf with a book under an identifier. -/
def put (shelf : Shelf) (id : Int) (b : Book) : Shelf :=
  { shelf with books := shelf.books.insert id b }

/-- What a request is answered, and the shelf behind it. -/
def serve (options : Options) (shelf : Shelf) : Request → Outcome × Shelf
  | .list pairs accept =>
    match Query.build Book.schema options.limits (pairs.map Book.expand) with
    | .error _ => (.error .malformedQuery, shelf)
    | .ok q => (.ok (.ok (showAll accept (shelf.select q))), shelf)
  | .get id accept =>
    if id ≤ 0 then (.error .invalidIdentifier, shelf)
    else
      match shelf.books[id]? with
      | none => (.error .notFound, shelf)
      | some b => (.ok (.ok (showOne accept b)), shelf)
  | .create body accept =>
    match accepted Book.checkWhole body with
    | none => (.error .validationFailed, shelf)
    | some d =>
      let b := { Book.ofDraft d none with id := shelf.counter }
      (.ok { Grant.created (showOne accept b) with location := location? options shelf.counter },
        ⟨shelf.books.insert shelf.counter b, shelf.counter + 1⟩)
  | .update id body =>
    if id ≤ 0 then (.error .invalidIdentifier, shelf)
    else
      match shelf.books[id]? with
      | none => (.error .notFound, shelf)
      | some _ =>
        match acceptedFor Book.checkWhole id body with
        | none => (.error .validationFailed, shelf)
        | some d => (.ok .noContent, shelf.put id (Book.ofDraft d (some id)))
  | .updatePartial id body =>
    if id ≤ 0 then (.error .invalidIdentifier, shelf)
    else
      match shelf.books[id]? with
      | none => (.error .notFound, shelf)
      | some b =>
        match acceptedFor Book.checkParts id body with
        | none => (.error .validationFailed, shelf)
        | some d => (.ok .noContent, shelf.put id (b.merge d))
  | .delete id =>
    if id ≤ 0 then (.error .invalidIdentifier, shelf)
    else if Book.featured.contains id then (.error .conflict, shelf)
    else
      match shelf.books[id]? with
      | none => (.error .notFound, shelf)
      | some _ => (.ok .noContent, { shelf with books := shelf.books.erase id })

/-- What requests are answered one after the other, each with the shelf behind it. -/
def serveAll (options : Options) (shelf : Shelf) : List Request → List (Outcome × Shelf)
  | [] => []
  | request :: requests =>
    let visit := shelf.serve options request
    visit :: visit.2.serveAll options requests

end Shelf

end ResourceApi
