/-!
# Page limits

How large a page may be, and how large it is when a request names a page but no size.

## Main definitions

- `PageLimits` — a standard and a greatest page size, with `1 ≤ standard ≤ greatest`
- `PageLimits.clamp` — the limits closest to a pair of numbers that are in these bounds
-/

namespace ResourceApi

/-- A standard and a greatest page size. -/
structure PageLimits where
  /-- The size of a page when none is asked for. -/
  standard : Nat
  /-- The greatest size of a page. -/
  greatest : Nat
  /-- A page shows at least one item. -/
  standard_pos : 1 ≤ standard
  /-- The standard size may be asked for. -/
  standard_le : standard ≤ greatest
deriving DecidableEq

namespace PageLimits

/-- Twenty items, at most a hundred. -/
def usual : PageLimits := ⟨20, 100, by decide, by decide⟩

/-- The limits for two numbers: the greatest size is raised to one, and the standard size is moved
between one and the greatest. -/
def clamp (standard greatest : Nat) : PageLimits where
  standard := min (max standard 1) (max greatest 1)
  greatest := max greatest 1
  standard_pos := by omega
  standard_le := by omega

end PageLimits

end ResourceApi
