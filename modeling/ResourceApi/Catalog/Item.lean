import ResourceApi.Json.Record
import ResourceApi.Resource.Service
import ResourceApi.Store.Basic

/-!
# Items

The resource of a small stock: named items with a quantity and an optional note. Two names are
reserved to see how the service behaves when a resource misbehaves: documents named `PANIC` crash
wherever an entity is made of them, and documents named `UNRENDERABLE` cannot be written as JSON.

## Main definitions

- `Item` — an item
- `Item.Draft` — what a client says of an item
- `Item.resource` — items as a resource
-/

namespace ResourceApi

/-- An item. -/
structure Item where
  id : Int
  name : String
  qty : Int
  note : Option String
deriving DecidableEq

/-- What a client says of an item. Nothing has to be said. -/
structure Item.Draft where
  id : Option Int
  name : Option String
  qty : Option Int
  note : Option String
deriving DecidableEq

namespace Item

/-- The value of a field of an item. -/
def field (x : Item) (name : String) : Option Value :=
  if name == "id" then some (.integer x.id)
  else if name == "name" then some (.text x.name)
  else if name == "qty" then some (.integer x.qty)
  else if name == "note.text" then x.note.map .text
  else none

instance : Entity Item where
  id x := x.id
  withId x id := { x with id := id }
  field := field

def schema : Schema :=
  .ofList [("id", .integer), ("name", .text), ("qty", .integer), ("note.text", .text)]

/-- The fields of a draft, in the order in which an array gives them. -/
def Draft.fields : List String := ["id", "name", "qty", "note"]

def Draft.read (body : Bytes) : Option Draft := do
  let record ← Json.Record.read fields body
  let id ← record.field "id" Json.Node.integer?
  let name ← record.field "name" Json.Node.text?
  let qty ← record.field "qty" Json.Node.integer?
  let note ← record.field "note" Json.Node.text?
  some ⟨id, name, qty, note⟩

/-- A draft as JSON, in which what is not said is left out, except that the note is `null`. -/
def Draft.json (d : Draft) : Except String Json.Node :=
  if d.name = some "UNRENDERABLE" then .error "name cannot be rendered"
  else .ok <| .ofMembers <|
    (d.id.map fun id => ("id", Json.Node.ofInt id)).toList
    ++ (d.name.map fun name => ("name", Json.Node.ofText name)).toList
    ++ (d.qty.map fun qty => ("qty", Json.Node.ofInt qty)).toList
    ++ [("note", (d.note.map Json.Node.ofText).getD .null)]

/-- A draft as XML, its name as it is. -/
def Draft.xml (d : Draft) : String :=
  "<item id=\"" ++ Number.decimal (d.id.getD 0) ++ "\">" ++ d.name.getD "" ++ "</item>"

def Draft.xmlList (ds : List Draft) : String :=
  "<items count=\"" ++ Number.decimal ds.length ++ "\">" ++ String.join (ds.map Draft.xml)
    ++ "</items>"

/-- The draft that says all of an item. -/
def draft (x : Item) : Draft := ⟨some x.id, some x.name, some x.qty, x.note⟩

/-- Crashes on a draft with the reserved name. -/
def unlessReserved (d : Draft) (x : Item) : Except String Item :=
  if d.name = some "PANIC" then .error "mapping failed" else .ok x

/-- The item that a draft describes. -/
def ofDraft (d : Draft) (id : Option Int) : Except String Item :=
  -- The identifier of the path wins over the draft's own.
  unlessReserved d ⟨(id <|> d.id).getD 0, d.name.getD "", d.qty.getD 0, d.note⟩

/-- An item with the parts that a draft gives. -/
def merge (x : Item) (d : Draft) : Except String Item :=
  unlessReserved d
    ⟨d.id.getD x.id, d.name.getD x.name, d.qty.getD x.qty, d.note <|> x.note⟩

def checkCreate (d : Draft) : Except Violations Unit :=
  ((Violations.none.require "qty" d.qty).require "name" d.name).verdict

/-- The rules for items that take the place of others. -/
def checkUpdate (d : Draft) : Except Violations Unit :=
  (Violations.none.require "name" d.name).verdict

/-- The rules for drafts that give some parts. -/
def checkPartial (d : Draft) : Except Violations Unit :=
  let v := if d.qty.any (· < 0) then Violations.none.add "qty" "RANGE" "qty must not be negative"
    else .none
  let v := if d.name.any String.isEmpty then v.add "name" "BLANK" "name must not be blank" else v
  let v := if d.name.any (·.utf8ByteSize < 2) then v.add "name" "TOO_SHORT" "name is too short"
    else v
  v.verdict

/-- Items as a resource, of which those in use stay. -/
def resource (deletionAllowed : Bool) (inUse : List Int) : Resource Item Draft where
  name := "Item"
  schema := schema
  identify x := x.id
  claimedId d := d.id
  present := draft
  create := ofDraft
  merge := merge
  checkCreate := checkCreate
  checkUpdate := checkUpdate
  checkPartial := checkPartial
  read := Draft.read
  json := Draft.json
  xml := Draft.xml
  xmlList := Draft.xmlList
  query := Query.build
  deletionAllowed := deletionAllowed
  deletable id := !inUse.contains id

end Item

end ResourceApi
