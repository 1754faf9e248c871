import ResourceApi.Text.Split

/-!
# Targets

What a message is about, as its first line spells it. A target starts with its path, or with a
scheme and the name of a server in front of the path. A query string follows behind the first `?`,
and a fragment, which nobody looks at, behind `#`.

## Main definitions

- `Target` — a path, and a query string if there is one
- `Target.read` — reads a target

## Design notes

A target of any other form, such as the name of a server alone, has an empty path. No resource is
found there, so what else such a target says is not kept.
-/

namespace ResourceApi

/-- What a message is about. -/
structure Target where
  path : List Char
  query : Option (List Char)
deriving DecidableEq

namespace Target

def isSchemePart (c : Char) : Bool :=
  c.isAlphanum || c == '+' || c == '-' || c == '.' || c == '~'

/-- What follows a scheme and the name of a server, if they are there. -/
def afterServer? (cs : List Char) : Option (List Char) :=
  match cs.dropWhile isSchemePart with
  | ':' :: '/' :: '/' :: rest => some (rest.dropWhile fun c => c != '/' && c != '?')
  | _ => none

/-- A path and the query string behind it. -/
def ofAddress (cs : List Char) : Target :=
  match Text.cut '?' cs with
  | some (path, query) => ⟨path, some query⟩
  | none => ⟨cs, none⟩

/-- Reads a target. -/
def read (cs : List Char) : Target :=
  let cs := cs.takeWhile (· != '#')
  match cs with
  | '/' :: _ => ofAddress cs
  | _ =>
    match afterServer? cs with
    | some address =>
      let target := ofAddress address
      -- Behind the name of a server an empty path is the path `/`.
      if target.path.isEmpty then { target with path := ['/'] } else target
    | none => ⟨[], none⟩

end Target

end ResourceApi
