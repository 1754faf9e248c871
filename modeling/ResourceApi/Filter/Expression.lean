import ResourceApi.Filter.Operator

/-!
# Filter expressions

Trees of comparisons. A leaf compares one field with one operand; an inner node holds when all its
children do. The operand's type is a parameter: the text of a query string first, a typed value
after the schema has been consulted.

## Main definitions

- `Filter.Comparison` — a leaf
- `Filter.Expression` — a tree
- `Filter.Expression.leaves` — the leaves from left to right
- `Filter.Expression.mapM` — the tree with every leaf transformed, stopping at the first failure
- `Filter.Expression.holds` — whether a tree holds when it is known which leaves do
-/

namespace ResourceApi.Filter

/-- A comparison of a field with an operand. -/
structure Comparison (V : Type) where
  field : String
  operator : Operator
  operand : V

/-- A tree of comparisons. -/
inductive Expression (V : Type) where
  | comparison (leaf : Comparison V)
  | all (children : List (Expression V))

namespace Expression

variable {U V : Type}

mutual

/-- The leaves of a tree from left to right. -/
def leaves : Expression V → List (Comparison V)
  | .comparison leaf => [leaf]
  | .all children => leavesOfAll children

def leavesOfAll : List (Expression V) → List (Comparison V)
  | [] => []
  | e :: es => leaves e ++ leavesOfAll es

end

mutual

/-- The tree with every leaf transformed, from left to right. -/
def mapM {m : Type → Type} [Monad m] (f : Comparison V → m (Comparison U)) :
    Expression V → m (Expression U)
  | .comparison leaf => .comparison <$> f leaf
  | .all children => .all <$> mapAllM f children

def mapAllM {m : Type → Type} [Monad m] (f : Comparison V → m (Comparison U)) :
    List (Expression V) → m (List (Expression U))
  | [] => pure []
  | e :: es => do
    let e ← mapM f e
    let es ← mapAllM f es
    pure (e :: es)

end

mutual

/-- Whether a tree holds, given which leaves do. -/
def holds (p : Comparison V → Bool) : Expression V → Bool
  | .comparison leaf => p leaf
  | .all children => allHold p children

def allHold (p : Comparison V → Bool) : List (Expression V) → Bool
  | [] => true
  | e :: es => holds p e && allHold p es

end

end Expression

end ResourceApi.Filter
