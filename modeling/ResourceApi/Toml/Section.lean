import ResourceApi.Settings.Tree

/-!
# Sections of a TOML text

The tables that a TOML text builds up line by line. A table remembers how it came about, because a
table may be opened by a header only once and dotted keys may not reach into a table that a header
opened.

## Main definitions

- `Origin`, `Entry` — tables with their origins
- `put` — a value under a dotted key
- `declare`, `append` — a table, and one more table of an array, under the key of a header
- `within` — a change of the table that a header opened
- `Entry.tree` — the value that has been built up
-/

namespace ResourceApi.Toml

/-- How a table came about. -/
inductive Origin where
  /-- A header names a table inside it. -/
  | implied
  /-- A dotted key leads through it. -/
  | dotted
  /-- A header opened it. -/
  | opened
deriving DecidableEq

/-- What stands under a name. -/
inductive Entry where
  /-- A value. -/
  | value (t : Tree)
  /-- A table. -/
  | table (origin : Origin) (entries : List (String × Entry))
  /-- Several tables, each opened by a header of its own. -/
  | tables (elements : List (List (String × Entry)))

/-- The entries of a table. -/
abbrev Entries := List (String × Entry)

mutual

/-- The value that has been built up under a name. -/
def Entry.tree : Entry → Tree
  | .value t => t
  | .table _ entries => .table (treesOf entries)
  | .tables elements => .list (treesIn elements)

/-- The values that have been built up under names. -/
def treesOf : List (String × Entry) → List (String × Tree)
  | [] => []
  | (name, entry) :: entries => (name, entry.tree) :: treesOf entries

/-- The values that have been built up in an array. -/
def treesIn : List (List (String × Entry)) → List Tree
  | [] => []
  | entries :: elements => .table (treesOf entries) :: treesIn elements

end

/-- Changes what stands under a name, or puts something there. -/
def alter (name : String) (change : Option Entry → Option Entry) : Entries → Option Entries
  | [] => (change none).map fun entry => [(name, entry)]
  | (key, entry) :: entries =>
    if key == name then (change (some entry)).map fun entry => (key, entry) :: entries
    else (alter name change entries).map ((key, entry) :: ·)

/-- Changes the last of several tables. -/
def alterLast (change : Entries → Option Entries) : List Entries → Option (List Entries)
  | [] => none
  | [last] => (change last).map fun last => [last]
  | first :: elements => (alterLast change elements).map (first :: ·)

/-- Whether a dotted key may lead through a table. -/
def admitsDotted (origin : Origin) (isLast : Bool) : Bool :=
  match origin with
  | .opened => false
  -- The last table a dotted key leads through has to be made by dotted keys.
  | .implied => !isLast
  | .dotted => true

/-- Puts a value under a dotted key. The key must not be taken. -/
def put (value : Tree) : List String → Entries → Option Entries
  | [], _ => none
  | [name], entries =>
    entries |> alter name fun
      | none => some (.value value)
      | some _ => none
  | name :: next :: path, entries =>
    entries |> alter name fun
      | none => (put value (next :: path) []).map (.table .dotted)
      | some (.table origin inner) =>
        if admitsDotted origin path.isEmpty then
          (put value (next :: path) inner).map (.table origin)
        else none
      | some (.tables elements) =>
        if path.isEmpty then none
        else (alterLast (put value (next :: path)) elements).map .tables
      | some (.value _) => none

/-- Changes the entry under the key of a header. -/
def alterAt (change : Option Entry → Option Entry) : List String → Entries → Option Entries
  | [], _ => none
  | [name], entries => alter name change entries
  | name :: path, entries =>
    entries |> alter name fun
      | none => (alterAt change path []).map (.table .implied)
      | some (.table origin inner) => (alterAt change path inner).map (.table origin)
      | some (.tables elements) => (alterLast (alterAt change path) elements).map .tables
      | some (.value _) => none

/-- Opens a table. It must not be open yet, and no dotted key may have made it. -/
def declare : List String → Entries → Option Entries :=
  alterAt fun
    | none => some (.table .opened [])
    | some (.table .implied inner) => some (.table .opened inner)
    | some _ => none

/-- Adds a table to an array of tables. -/
def append : List String → Entries → Option Entries :=
  alterAt fun
    | none => some (.tables [[]])
    | some (.tables elements) => some (.tables (elements ++ [[]]))
    | some _ => none

/-- Changes the table that the last header opened; without a header, the table around all others. -/
def within (change : Entries → Option Entries) : List String → Entries → Option Entries
  | [], entries => change entries
  | name :: path, entries =>
    entries |> alter name fun
      | some (.table origin inner) => (within change path inner).map (.table origin)
      | some (.tables elements) => (alterLast (within change path) elements).map .tables
      | _ => none

end ResourceApi.Toml
