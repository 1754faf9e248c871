import Mathlib.Data.List.Forall2

/-!
# Readers applied one after the other

What comes of readers that may fail: one after another they succeed if each of them does. A reader
succeeds on a whole list if it succeeds on every item, and the results are those of the items.

## Main results

- `bind_eq_ok_iff` — a reading goes on where the one before it has succeeded
- `mem_of_mapM_ok` — the results are those of the items
- `ok_of_mapM_ok` — no item is passed over
- `mapM_eq_ok_iff` — each item has its own result
- `mapM_bind_eq_ok_iff` — two readers on each item are two readers on the list
- `mapM_ok_of_perm` — items in another order have their results in another order
-/

namespace ResourceApi

variable {α β γ ε : Type}

theorem bind_eq_ok_iff {r : Except ε α} {next : α → Except ε β} {b : β} :
    (r >>= next) = .ok b ↔ ∃ a, r = .ok a ∧ next a = .ok b := by
  cases r <;> simp [bind, Except.bind]

theorem map_eq_ok_iff {r : Except ε α} {g : α → β} {b : β} :
    g <$> r = .ok b ↔ ∃ a, r = .ok a ∧ g a = b := by
  cases r <;> simp [Functor.map, Except.map]

theorem eq_ok_of_toOption {r : Except ε α} {a : α} (h : r.toOption = some a) : r = .ok a := by
  cases r with
  | error e => cases h
  | ok b => exact congrArg Except.ok (Option.some.inj h)

variable {f : α → Except ε β}

theorem mapM_cons_eq_ok_iff {x : α} {xs : List α} {ys : List β} :
    (x :: xs).mapM f = .ok ys ↔ ∃ y rest, f x = .ok y ∧ xs.mapM f = .ok rest ∧ ys = y :: rest := by
  simp only [List.mapM_cons, bind_eq_ok_iff]
  constructor
  · rintro ⟨y, hy, rest, hrest, h⟩
    exact ⟨y, rest, hy, hrest, (Except.ok.inj h).symm⟩
  · rintro ⟨y, rest, hy, hrest, rfl⟩
    exact ⟨y, hy, rest, hrest, rfl⟩

theorem mem_of_mapM_ok {xs : List α} {ys : List β} (h : xs.mapM f = .ok ys) {y : β} :
    y ∈ ys ↔ ∃ x ∈ xs, f x = .ok y := by
  induction xs generalizing ys with
  | nil =>
    obtain rfl : [] = ys := Except.ok.inj h
    simp
  | cons x xs ih =>
    obtain ⟨first, rest, hfirst, hrest, rfl⟩ := mapM_cons_eq_ok_iff.mp h
    simp [ih hrest, hfirst, eq_comm]

theorem ok_of_mapM_ok {xs : List α} {ys : List β} (h : xs.mapM f = .ok ys) {x : α}
    (hx : x ∈ xs) : ∃ y ∈ ys, f x = .ok y := by
  induction xs generalizing ys with
  | nil => exact absurd hx List.not_mem_nil
  | cons first xs ih =>
    obtain ⟨y, rest, hfirst, hrest, rfl⟩ := mapM_cons_eq_ok_iff.mp h
    rcases List.mem_cons.mp hx with rfl | hx
    · exact ⟨y, List.mem_cons_self .., hfirst⟩
    · obtain ⟨found, hfound, hok⟩ := ih hrest hx
      exact ⟨found, List.mem_cons_of_mem _ hfound, hok⟩

/-- A reader succeeds on a list if each item has a result of its own. -/
theorem mapM_eq_ok_iff {xs : List α} {ys : List β} :
    xs.mapM f = .ok ys ↔ List.Forall₂ (fun x y => f x = .ok y) xs ys := by
  induction xs generalizing ys with
  | nil =>
    rw [List.forall₂_nil_left_iff]
    exact ⟨fun h => (Except.ok.inj h).symm, fun h => congrArg Except.ok h.symm⟩
  | cons x xs ih => simp only [mapM_cons_eq_ok_iff, List.forall₂_cons_left_iff, ih]

theorem exists_mapM_ok_iff {xs : List α} :
    (∃ ys, xs.mapM f = .ok ys) ↔ ∀ x ∈ xs, ∃ y, f x = .ok y := by
  constructor
  · rintro ⟨ys, h⟩ x hx
    obtain ⟨y, -, hy⟩ := ok_of_mapM_ok h hx
    exact ⟨y, hy⟩
  · intro h
    induction xs with
    | nil => exact ⟨[], rfl⟩
    | cons x xs ih =>
      obtain ⟨⟨y, hy⟩, hxs⟩ := List.forall_mem_cons.mp h
      obtain ⟨ys, hys⟩ := ih hxs
      exact ⟨y :: ys, mapM_cons_eq_ok_iff.mpr ⟨y, ys, hy, hys, rfl⟩⟩

/-- Only the fault that is met first depends on which reader goes over the list first. -/
theorem mapM_bind_eq_ok_iff {g : β → Except ε γ} {xs : List α} {zs : List γ} :
    xs.mapM (fun x => f x >>= g) = .ok zs ↔ ∃ ys, xs.mapM f = .ok ys ∧ ys.mapM g = .ok zs := by
  induction xs generalizing zs with
  | nil =>
    constructor
    · intro h
      exact ⟨[], rfl, h⟩
    · rintro ⟨ys, hys, h⟩
      obtain rfl : [] = ys := Except.ok.inj hys
      exact h
  | cons x xs ih =>
    constructor
    · intro h
      obtain ⟨z, rest, hz, hrest, rfl⟩ := mapM_cons_eq_ok_iff.mp h
      obtain ⟨y, hy, hz⟩ := bind_eq_ok_iff.mp hz
      obtain ⟨ys, hys, hrest⟩ := ih.mp hrest
      exact ⟨y :: ys, mapM_cons_eq_ok_iff.mpr ⟨y, ys, hy, hys, rfl⟩,
        mapM_cons_eq_ok_iff.mpr ⟨z, rest, hz, hrest, rfl⟩⟩
    · rintro ⟨_, hread, h⟩
      obtain ⟨y, ys, hy, hys, rfl⟩ := mapM_cons_eq_ok_iff.mp hread
      obtain ⟨z, rest, hz, hrest, rfl⟩ := mapM_cons_eq_ok_iff.mp h
      exact mapM_cons_eq_ok_iff.mpr
        ⟨z, rest, bind_eq_ok_iff.mpr ⟨y, hy, hz⟩, ih.mpr ⟨ys, hys, hrest⟩, rfl⟩

/-- By induction on the way from one order of the items to the other. -/
theorem mapM_ok_of_perm {xs xs' : List α} (hperm : xs.Perm xs') {ys : List β}
    (h : xs.mapM f = .ok ys) : ∃ ys', xs'.mapM f = .ok ys' ∧ ys.Perm ys' := by
  induction hperm generalizing ys with
  | nil => exact ⟨ys, h, .refl _⟩
  | cons x _ ih =>
    obtain ⟨y, rest, hy, hrest, rfl⟩ := mapM_cons_eq_ok_iff.mp h
    obtain ⟨rest', hrest', hperm⟩ := ih hrest
    exact ⟨y :: rest', mapM_cons_eq_ok_iff.mpr ⟨y, rest', hy, hrest', rfl⟩, hperm.cons y⟩
  | swap x x' xs =>
    obtain ⟨y', behind, hy', hbehind, rfl⟩ := mapM_cons_eq_ok_iff.mp h
    obtain ⟨y, rest, hy, hrest, rfl⟩ := mapM_cons_eq_ok_iff.mp hbehind
    have htail : (x' :: xs).mapM f = .ok (y' :: rest) :=
      mapM_cons_eq_ok_iff.mpr ⟨y', rest, hy', hrest, rfl⟩
    exact ⟨y :: y' :: rest, mapM_cons_eq_ok_iff.mpr ⟨y, _, hy, htail, rfl⟩, .swap y y' rest⟩
  | trans _ _ ih ih' =>
    obtain ⟨middle, hmiddle, hperm⟩ := ih h
    obtain ⟨ys', hys', hperm'⟩ := ih' hmiddle
    exact ⟨ys', hys', hperm.trans hperm'⟩

end ResourceApi
