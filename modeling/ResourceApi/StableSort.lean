/-!
# Stable sorting

Sorting by insertion. Elements are taken from left to right and each is put behind every earlier
element that it does not come before, so elements that are not ordered keep their order.

## Main definitions

- `place` — inserts an element into a list held latest first
- `stableSort` — the sorted list

## Design notes

The result is defined for every comparison. Where that is a strict weak order, every stable way of
sorting gives the same result; where it is none, others need not agree with this one, and may
refuse.
-/

namespace ResourceApi

variable {α : Type}

/-- Inserts an element into a list held latest first: it goes in front of the first element that it
does not come before. -/
def place (before : α → α → Bool) (x : α) : List α → List α
  | [] => [x]
  | y :: ys => if before x y then y :: place before x ys else x :: y :: ys

/-- The elements in order, earliest first; `before` is the strict order. -/
def stableSort (before : α → α → Bool) (xs : List α) : List α :=
  (xs.foldl (fun sorted x => place before x sorted) []).reverse

end ResourceApi
