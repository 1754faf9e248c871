/-!
# Page windows

The part of a list that a page shows: how many items to skip and how many to take at most.

## Main definitions

- `Window` — an offset and a limit
- `Window.page` — the window of a numbered page
- `Window.apply` — the items inside a window
-/

namespace ResourceApi

/-- A part of a list. -/
structure Window where
  offset : Nat
  limit : Nat
deriving DecidableEq

namespace Window

/-- The window used where none is asked for: the first twenty items. -/
def standard : Window := ⟨0, 20⟩

def firstPage (limit : Nat) : Window := ⟨0, limit⟩

/-- A page by its number, counted from one; number zero is the first page too. -/
def page (number size : Nat) : Window := ⟨(number - 1) * size, size⟩

def apply {α : Type} (w : Window) (items : List α) : List α := (items.drop w.offset).take w.limit

end Window

end ResourceApi
