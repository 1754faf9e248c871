/-!
# Splitting a text at a separator

The separators of this library's formats are single characters or bytes, and a separator is never
escaped, so splitting needs no context. `pieces` always yields at least one piece, and joining the
pieces with the separator gives the text back.

## Main definitions

- `pieces` — every piece between separators, empty ones included
- `cut` — the parts before and after the first separator
-/

namespace ResourceApi.Text

variable {α : Type} [DecidableEq α]

/-- The pieces of a text between separators, empty ones included. -/
def pieces (sep : α) : List α → List (List α)
  | [] => [[]]
  | x :: xs =>
    if x = sep then [] :: pieces sep xs
    else match pieces sep xs with
      | [] => [[x]]
      | p :: ps => (x :: p) :: ps

/-- The parts before and after the first separator, if there is one. -/
def cut (sep : α) : List α → Option (List α × List α)
  | [] => none
  | x :: xs =>
    if x = sep then some ([], xs)
    else match cut sep xs with
      | none => none
      | some (l, r) => some (x :: l, r)

/-- There is always at least one piece. -/
theorem pieces_ne_nil (sep : α) (xs : List α) : pieces sep xs ≠ [] := by
  cases xs with
  | nil => simp [pieces]
  | cons x xs =>
    unfold pieces
    split
    · simp
    · split <;> simp

/-- Cutting loses only the separator. -/
theorem eq_of_cut_eq_some {sep : α} {xs l r : List α} (h : cut sep xs = some (l, r)) :
    xs = l ++ sep :: r := by
  induction xs generalizing l r with
  | nil => simp [cut] at h
  | cons x xs ih =>
    unfold cut at h
    split at h
    · rename_i hx
      obtain ⟨rfl, rfl⟩ := by simpa using h
      simp [hx]
    · split at h
      · simp at h
      · rename_i l' r' hc
        obtain ⟨rfl, rfl⟩ := by simpa using h
        simp [ih hc]

end ResourceApi.Text
