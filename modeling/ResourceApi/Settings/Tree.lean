/-!
# Trees of settings

What a source of settings holds: values under nested names. Sources are layered: a stronger source
replaces the values it has itself and leaves the others as they are.

## Main definitions

- `Tree` — a value of a source
- `Tree.lookup` — the value under a path of names
- `Tree.collect` — entries one after the other, the later one counting
- `Tree.layer` — a source with a stronger source on top
- `Tree.nest` — a value under a path of names
- `Tree.unbox` — the value that a part of a source stands for

## Design notes

No setting is a real number or a moment, so trees only say that such a value is there.
-/

namespace ResourceApi

/-- A value of a source of settings. -/
inductive Tree where
  | text (s : String)
  | integer (n : Int)
  /-- A number with a point or an exponent. -/
  | real
  | boolean (b : Bool)
  | list (items : List Tree)
  | table (entries : List (String × Tree))

namespace Tree

def empty : Tree := .table []

/-- A date, a time of day or both: a table with one entry under a name that no setting has. -/
def moment : Tree := .table [("$moment", .text "")]

def lookup (t : Tree) : List String → Option Tree
  | [] => some t
  | name :: path =>
    match t with
    | .table entries =>
      match entries.lookup name with
      | some inner => inner.lookup path
      | none => none
    | _ => none

/-- The entries with one of them replaced, or added at the end. -/
def set (name : String) (value : Tree) : List (String × Tree) → List (String × Tree)
  | [] => [(name, value)]
  | (key, old) :: entries =>
    if key == name then (key, value) :: entries else (key, old) :: set name value entries

/-- The entries that come of entries one after the other; of two under the same name the later
counts. -/
def collect (entries : List (String × Tree)) : List (String × Tree) :=
  entries.foldl (fun under entry => set entry.1 entry.2 under) []

mutual

/-- A source with a stronger source on top. -/
def layer (weak : Tree) : Tree → Tree
  | .table entries =>
    match weak with
    | .table under => .table (layerAll under entries)
    | _ => .table (layerAll [] entries)
  -- Only tables are layered; any other value is replaced as a whole.
  | strong => strong

def layerAll (under : List (String × Tree)) : List (String × Tree) → List (String × Tree)
  | [] => under
  | (name, value) :: entries =>
    let value := match under.lookup name with
      | some weak => layer weak value
      | none => value
    layerAll (set name value under) entries

end

/-- The name under which a table holds the value that it stands for. -/
def valueName : String := "___figment_value_value"

/-- The name under which no table of a source may have an entry. -/
def originName : String := "___figment_value_id"

/-- The value that a table with some entries stands for: the value under `valueName` if there is
one, and else the table itself. -/
def contents? (entries : List (String × Tree)) : Option Tree :=
  if (entries.lookup originName).isSome then none
  else some ((entries.lookup valueName).getD (.table entries))

mutual

/-- The value that a part of a source stands for. -/
def unbox : Tree → Option Tree
  | .list items => (unboxItems items).map .list
  | .table entries => (unboxEntries entries).bind contents?
  | t => some t

/-- The values that the items of a list stand for. -/
def unboxItems : List Tree → Option (List Tree)
  | [] => some []
  | item :: items => do some ((← unbox item) :: (← unboxItems items))

/-- The values that the entries of a table stand for. -/
def unboxEntries : List (String × Tree) → Option (List (String × Tree))
  | [] => some []
  | (name, value) :: entries => do some ((name, ← unbox value) :: (← unboxEntries entries))

end

def nest (value : Tree) : List String → Tree
  | [] => value
  | name :: path => .table [(name, nest value path)]

end Tree

end ResourceApi
