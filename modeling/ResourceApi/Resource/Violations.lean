import Std.Data.ExtTreeMap
import ResourceApi.Json.Node

/-!
# Violations

What is wrong with the fields of a document: for each field the rules it breaks, in the order in
which they were found, the fields in the order of their names.

## Main definitions

- `Violation` — one broken rule
- `Violations` — the broken rules by field
- `Violations.add`, `Violations.require` — records a broken rule
- `Violations.verdict` — accepts a document that breaks no rule
- `Violations.node` — the violations as JSON
-/

namespace ResourceApi

/-- One broken rule. -/
structure Violation where
  code : String
  message : String
deriving DecidableEq

/-- The broken rules by field. -/
structure Violations where
  /-- The broken rules of each field that breaks one. -/
  fields : Std.ExtTreeMap String (List Violation)

namespace Violations

def none : Violations := ⟨∅⟩

def field (v : Violations) (name : String) : List Violation := v.fields[name]?.getD []

/-- Records a broken rule of a field. -/
def add (v : Violations) (name code message : String) : Violations :=
  ⟨v.fields.insert name (v.field name ++ [⟨code, message⟩])⟩

/-- Records that a field is missing, if it is. -/
def require {α : Type} (v : Violations) (name : String) (value : Option α) : Violations :=
  match value with
  | some _ => v
  | Option.none => v.add name "REQUIRED" (name ++ " is required")

def isEmpty (v : Violations) : Bool := v.fields.isEmpty

def count (v : Violations) : Nat :=
  v.fields.toList.foldl (fun count entry => count + entry.2.length) 0

/-- Accepts a document that breaks no rule. -/
def verdict (v : Violations) : Except Violations Unit :=
  if v.isEmpty then .ok () else .error v

def ruleNode (v : Violation) : Json.Node :=
  .ofMembers [("code", .ofText v.code), ("message", .ofText v.message)]

def node (v : Violations) : Json.Node :=
  .ofMembers (v.fields.toList.map fun entry => (entry.1, .array (entry.2.map ruleNode)))

end Violations

end ResourceApi
