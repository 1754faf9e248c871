import ResourceApi.Json.Record
import ResourceApi.Resource.Service
import ResourceApi.Store.Basic

/-!
# Books

The resource of a small library: books with an author and a year, of which some are featured and
therefore stay.

## Main definitions

- `Book` — a book
- `Book.Draft` — what a client says of a book
- `Book.resource` — books as a resource
- `Book.seed` — the books that a library starts with
-/

namespace ResourceApi

/-- A book. -/
structure Book where
  id : Int
  title : String
  author : String
  year : Int
  /-- The day of publication, if it is known. -/
  published : Option Date
  inPrint : Bool
deriving DecidableEq

/-- What a client says of a book. Nothing has to be said. -/
structure Book.Draft where
  id : Option Int
  title : Option String
  author : Option String
  year : Option Int
  published : Option Date
  inPrint : Option Bool
deriving DecidableEq

namespace Book

/-- The value of a field of a book. -/
def field (b : Book) (name : String) : Option Value :=
  if name == "id" then some (.integer b.id)
  else if name == "title" then some (.text b.title)
  else if name == "author" then some (.text b.author)
  else if name == "year" then some (.integer b.year)
  else if name == "published" then b.published.map .date
  else if name == "in_print" then some (.boolean b.inPrint)
  else none

instance : Entity Book where
  id b := b.id
  withId b id := { b with id := id }
  field := field

def schema : Schema :=
  .ofList [("id", .integer), ("title", .text), ("author", .text), ("year", .integer),
    ("published", .date), ("in_print", .boolean)]

/-- The fields of a draft, in the order in which an array gives them. -/
def Draft.fields : List String := ["id", "title", "author", "year", "published", "in_print"]

/-- The date that a JSON tree stands for. -/
def dateOf (node : Json.Node) : Option Date := node.text?.bind fun s => Date.readSpaced s.toList

def Draft.read (body : Bytes) : Option Draft := do
  let record ← Json.Record.read fields body
  let id ← record.field "id" Json.Node.integer?
  let title ← record.field "title" Json.Node.text?
  let author ← record.field "author" Json.Node.text?
  let year ← record.field "year" Json.Node.integer?
  let published ← record.field "published" dateOf
  let inPrint ← record.field "in_print" Json.Node.boolean?
  some ⟨id, title, author, year, published, inPrint⟩

/-- A member of an object, if there is a value for it. -/
def member {α : Type} (name : String) (node : α → Json.Node) (value : Option α) :
    List (String × Json.Node) :=
  (value.map fun a => (name, node a)).toList

/-- A draft as JSON, in which what is not said is left out. -/
def Draft.json (d : Draft) : Json.Node :=
  .ofMembers <|
    member "id" .ofInt d.id ++ member "title" .ofText d.title ++ member "author" .ofText d.author
    ++ member "year" .ofInt d.year ++ member "published" (fun day => .ofText day.text) d.published
    ++ member "in_print" .boolean d.inPrint

/-- A text with another one in the place of each occurrence of a character. -/
def replaceEach (c : Char) (other : String) (cs : List Char) : List Char :=
  cs.flatMap fun x => if x == c then other.toList else [x]

/-- A text with references in the place of the characters that mark up. -/
def escape (s : String) : String :=
  -- The ampersand comes first, since the references begin with one.
  let cs := replaceEach '&' "&amp;" s.toList
  let cs := replaceEach '<' "&lt;" cs
  let cs := replaceEach '>' "&gt;" cs
  String.ofList (replaceEach '"' "&quot;" cs)

/-- An element around a content that needs no escapes. -/
def element (name content : String) : String :=
  "<" ++ name ++ ">" ++ content ++ "</" ++ name ++ ">"

/-- An element, if there is a content for it. -/
def elementFor {α : Type} (name : String) (content : α → String) (value : Option α) : String :=
  match value with
  | some a => element name (content a)
  | none => ""

def yesNo (b : Bool) : String := if b then "true" else "false"

def Draft.xml (d : Draft) : String :=
  "<book id=\"" ++ Number.decimal (d.id.getD 0) ++ "\">"
    ++ elementFor "title" escape d.title ++ elementFor "author" escape d.author
    ++ elementFor "year" Number.decimal d.year ++ elementFor "published" Date.text d.published
    ++ elementFor "in_print" yesNo d.inPrint ++ "</book>"

def Draft.xmlList (ds : List Draft) : String :=
  element "books" (String.join (ds.map Draft.xml))

/-- The draft that says all of a book. -/
def draft (b : Book) : Draft :=
  ⟨some b.id, some b.title, some b.author, some b.year, b.published, some b.inPrint⟩

/-- The book that a draft describes. -/
def ofDraft (d : Draft) (id : Option Int) : Book :=
  -- The draft's own identifier is not looked at.
  ⟨id.getD 0, d.title.getD "", d.author.getD "", d.year.getD 0, d.published, d.inPrint.getD true⟩

/-- A book with the parts that a draft gives. -/
def merge (b : Book) (d : Draft) : Book :=
  { b with
    title := d.title.getD b.title
    author := d.author.getD b.author
    year := d.year.getD b.year
    published := d.published <|> b.published
    inPrint := d.inPrint.getD b.inPrint }

/-- The years of printed books. -/
def isYear (year : Int) : Bool := 1450 ≤ year && year ≤ 2100

/-- A text that is given must not be blank. -/
def requireText (v : Violations) (name : String) (value : Option String) : Violations :=
  match value with
  | some s =>
    if Text.isBlankText s.toList then v.add name "BLANK" (name ++ " must not be blank") else v
  | none => v

/-- A year that is given must be one of a printed book. -/
def requireYear (v : Violations) (value : Option Int) : Violations :=
  match value with
  | some year =>
    if isYear year then v else v.add "year" "RANGE" "year must be between 1450 and 2100"
  | none => v

/-- The rules for what is given. -/
def checkGiven (v : Violations) (d : Draft) : Violations :=
  requireYear (requireText (requireText v "title" d.title) "author" d.author) d.year

/-- The rules for a draft that describes a whole book. -/
def checkWhole (d : Draft) : Except Violations Unit :=
  let v := (Violations.none.require "title" d.title).require "author" d.author
  (checkGiven (v.require "year" d.year) d).verdict

/-- The rules for a draft that describes parts of a book. -/
def checkParts (d : Draft) : Except Violations Unit := (checkGiven .none d).verdict

/-- Writes the shorthand `by` for a part of an author's name out in full. -/
def expand (pair : String × String) : String × String :=
  if pair.1 == "by" then ("author[like]", "%" ++ pair.2 ++ "%") else pair

/-- The books that stay. -/
def featured : List Int := [1]

def resource : Resource Book Draft where
  name := "Book"
  schema := schema
  identify b := b.id
  claimedId d := d.id
  present := draft
  create d id := .ok (ofDraft d id)
  merge b d := .ok (b.merge d)
  checkCreate := checkWhole
  checkUpdate := checkWhole
  checkPartial := checkParts
  read := Draft.read
  json d := .ok d.json
  xml := Draft.xml
  xmlList := Draft.xmlList
  query schema limits pairs := Query.build schema limits (pairs.map expand)
  deletionAllowed := true
  deletable id := !featured.contains id

/-- The books that a library starts with. -/
def seed : List Book :=
  [⟨1, "Dune", "Frank Herbert", 1965, Date.ofParts? 1965 8 1, true⟩,
   ⟨2, "The Left Hand of Darkness", "Ursula K. Le Guin", 1969, Date.ofParts? 1969 3 1, true⟩,
   ⟨3, "Do Androids Dream of Electric Sheep?", "Philip K. Dick", 1968, none, true⟩]

end Book

end ResourceApi
