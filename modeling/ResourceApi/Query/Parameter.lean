import ResourceApi.Filter.Error

/-!
# Paging and sorting parameters

The keys of a query string that do not filter. Two keys may name one parameter, and a parameter that
is given more than once has to be given the same value each time.

## Main definitions

- `Parameter` — the four parameters
- `Parameter.keys`, `Parameter.ofKey?` — the keys that name them
- `Parameters` — the values given in a query string
- `Parameters.gather` — parts a query string into parameters and filters
-/

namespace ResourceApi

/-- A parameter of a list request. -/
inductive Parameter where
  | page
  | pageSize
  | sort
  | order
deriving DecidableEq

namespace Parameter

def keys : List String := ["page", "per_page", "limit", "sort", "order"]

def ofKey? (key : String) : Option Parameter :=
  if key == "page" then some .page
  else if key == "per_page" || key == "limit" then some .pageSize
  else if key == "sort" then some .sort
  else if key == "order" then some .order
  else none

/-- The key under which a parameter is reported. -/
def key : Parameter → String
  | .page => "page"
  | .pageSize => "per_page"
  | .sort => "sort"
  | .order => "order"

def isReserved (key : String) : Bool := keys.contains key

end Parameter

def Parameters := Parameter → Option String

namespace Parameters

def none : Parameters := fun _ => Option.none

def give (given : Parameters) (p : Parameter) (value : String) : Parameters :=
  fun q => if q = p then some value else given q

/-- Parts pairs into parameters and filters, keeping the order of the filters. -/
def gather (given : Parameters) :
    List (String × String) → Except Filter.Error (Parameters × List (String × String))
  | [] => .ok (given, [])
  | (key, value) :: pairs =>
    match Parameter.ofKey? key with
    | Option.none => do
      let (given, filters) ← gather given pairs
      .ok (given, (key, value) :: filters)
    | some p =>
      match given p with
      | some earlier =>
        -- A second value for a parameter is an error unless it is the first one again.
        if earlier = value then gather given pairs else .error (.invalidParameter key value)
      | Option.none => gather (given.give p value) pairs

end Parameters

end ResourceApi
