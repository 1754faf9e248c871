import ResourceApi.StableSort

/-!
# What sorting does to a list

Whatever the comparison, the sorted list holds what the list held. Where the comparison is a strict
order up to ties, the sorted list is in that order, and what is tied keeps the order it had.

## Main definitions

- `OrdersOn` — a strict order up to ties
- `Ranked` — one element comes first, or the two are tied and stood in this order before

## Main results

- `stableSort_perm` — the sorted list is a permutation of the list
- `stableSort_pairwise` — the sorted list is in order, and ties keep their order
- `stableSort_eq_of_perm` — without ties, the order that a list had is forgotten
- `stableSort_filter` — elements that are tied with each other keep their order
- `stableSort_eq_self` — a list in order is left as it is
- `stableSort_map` — a list is sorted by what its elements are mapped to
-/

namespace ResourceApi

variable {α β : Type} (before : α → α → Bool)

theorem place_perm (x : α) (xs : List α) : (place before x xs).Perm (x :: xs) := by
  induction xs with
  | nil => exact .refl _
  | cons y ys ih =>
    rw [place]
    split
    · exact (ih.cons y).trans (.swap x y ys)
    · exact .refl _

theorem foldl_place_perm (sorted xs : List α) :
    (xs.foldl (fun sorted x => place before x sorted) sorted).Perm (xs ++ sorted) := by
  induction xs generalizing sorted with
  | nil => exact .refl _
  | cons x xs ih =>
    have hplaced : (xs ++ place before x sorted).Perm (xs ++ x :: sorted) :=
      (place_perm before x sorted).append_left xs
    exact (ih _).trans (hplaced.trans List.perm_middle)

/-- Sorting permutes a list. -/
theorem stableSort_perm (xs : List α) : (stableSort before xs).Perm xs := by
  have h := foldl_place_perm before [] xs
  rw [List.append_nil] at h
  exact (List.reverse_perm _).trans h

theorem mem_stableSort {xs : List α} {x : α} : x ∈ stableSort before xs ↔ x ∈ xs :=
  (stableSort_perm before xs).mem_iff

/-! ## Order -/

/-- A strict order of some elements, up to ties: of two elements at most one comes first, and what
comes before an element comes before any third one or has that third one behind it. -/
structure OrdersOn (P : α → Prop) : Prop where
  asymm : ∀ {a b}, P a → P b → before a b = true → before b a = false
  cotrans : ∀ {a b c}, P a → P b → P c → before a c = true → before a b = true ∨ before b c = true

/-- One element comes before the other, or they are tied and `R` puts them in this order. -/
def Ranked (R : α → α → Prop) (a b : α) : Prop :=
  before a b = true ∨ (before b a = false ∧ R a b)

variable {before} {P : α → Prop} {R : α → α → Prop}

/-- An element that is placed stands behind everything it does not come before: `sorted` is held
latest first. -/
theorem place_pairwise (h : OrdersOn before P) {x : α} (hx : P x) {sorted : List α}
    (hsorted : ∀ y ∈ sorted, P y) (hR : ∀ y ∈ sorted, R y x)
    (hranked : sorted.Pairwise fun later earlier => Ranked before R earlier later) :
    (place before x sorted).Pairwise fun later earlier => Ranked before R earlier later := by
  induction sorted with
  | nil => exact List.pairwise_singleton _ x
  | cons y ys ih =>
    obtain ⟨hy, hys⟩ := List.forall_mem_cons.mp hsorted
    obtain ⟨hRy, hRys⟩ := List.forall_mem_cons.mp hR
    obtain ⟨hfirst, hrest⟩ := List.pairwise_cons.mp hranked
    rw [place]
    by_cases hxy : before x y = true
    · rw [if_pos hxy]
      refine List.pairwise_cons.mpr ⟨?_, ih hys hRys hrest⟩
      intro z hz
      rcases List.mem_cons.mp ((place_perm before x ys).mem_iff.mp hz) with rfl | hz
      · exact .inl hxy
      · exact hfirst z hz
    · have htied : before x y = false := Bool.eq_false_iff.mpr hxy
      rw [if_neg hxy]
      refine List.pairwise_cons.mpr ⟨?_, hranked⟩
      intro z hz
      rcases List.mem_cons.mp hz with rfl | hz
      · exact .inr ⟨htied, hRy⟩
      · -- What comes before `y` comes before `x`, for `x` does not come before `y`.
        have hyz : before y z = false := by
          rcases hfirst z hz with hzy | ⟨hyz, -⟩
          · exact h.asymm (hys z hz) hy hzy
          · exact hyz
        have hxz : before x z = false := by
          apply Bool.eq_false_iff.mpr
          intro hbefore
          rcases h.cotrans hx hy (hys z hz) hbefore with hbefore | hbefore
          · exact hxy hbefore
          · exact Bool.eq_false_iff.mp hyz hbefore
        exact .inr ⟨hxz, hRys z hz⟩

theorem foldl_place_pairwise (h : OrdersOn before P) {sorted xs : List α}
    (hsorted : ∀ y ∈ sorted, P y) (hxs : ∀ x ∈ xs, P x) (hR : ∀ y ∈ sorted, ∀ x ∈ xs, R y x)
    (hxsR : xs.Pairwise R)
    (hranked : sorted.Pairwise fun later earlier => Ranked before R earlier later) :
    (xs.foldl (fun sorted x => place before x sorted) sorted).Pairwise
      fun later earlier => Ranked before R earlier later := by
  induction xs generalizing sorted with
  | nil => exact hranked
  | cons x xs ih =>
    obtain ⟨hx, hxs⟩ := List.forall_mem_cons.mp hxs
    obtain ⟨hxR, hxsR⟩ := List.pairwise_cons.mp hxsR
    have hmem {y : α} (hy : y ∈ place before x sorted) : y = x ∨ y ∈ sorted :=
      List.mem_cons.mp ((place_perm before x sorted).mem_iff.mp hy)
    refine ih ?_ hxs ?_ hxsR ?_
    · intro y hy
      rcases hmem hy with rfl | hy
      · exact hx
      · exact hsorted y hy
    · intro y hy z hz
      rcases hmem hy with rfl | hy
      · exact hxR z hz
      · exact hR y hy z (List.mem_cons_of_mem _ hz)
    · exact place_pairwise h hx hsorted (fun y hy => hR y hy x (List.mem_cons_self ..)) hranked

/-- **A sorted list is in order**, and what is tied keeps the order `R` that the list was in. -/
theorem stableSort_pairwise (h : OrdersOn before P) {xs : List α} (hxs : ∀ x ∈ xs, P x)
    (hR : xs.Pairwise R) : (stableSort before xs).Pairwise (Ranked before R) := by
  rw [stableSort, List.pairwise_reverse]
  exact foldl_place_pairwise h (by simp) hxs (by simp) hR .nil

/-- Greatest keys first is a strict order up to equal keys. -/
theorem ordersOn_greatest (key : α → Int) :
    OrdersOn (fun a b => decide (key b < key a)) fun _ => True where
  asymm := by
    intro a b _ _ h
    simp only [decide_eq_true_eq, decide_eq_false_iff_not] at h ⊢
    omega
  cotrans := by
    intro a b c _ _ _ h
    simp only [decide_eq_true_eq] at h ⊢
    omega

/-! ## Ties -/

theorem place_filter {p : α → Bool} (h : ∀ a b, p a = true → p b = true → before a b = false)
    (x : α) (sorted : List α) :
    (place before x sorted).filter p = [x].filter p ++ sorted.filter p := by
  induction sorted with
  | nil => rw [place, List.filter_nil, List.append_nil]
  | cons y ys ih =>
    rw [place]
    split
    · next hbefore =>
      have hcons (zs : List α) : (y :: zs).filter p = if p y then y :: zs.filter p else zs.filter p :=
        List.filter_cons
      rw [hcons, hcons, ih]
      by_cases hy : p y = true
      · -- What is put behind such an element is not such an element itself.
        have hx : p x = false := by
          refine Bool.eq_false_iff.mpr fun hx => ?_
          rw [h x y hx hy] at hbefore
          cases hbefore
        simp [hx]
      · simp [hy]
    · rw [← List.filter_append, List.singleton_append]

/-- Elements that are tied with each other keep the order that they had. -/
theorem stableSort_filter {p : α → Bool} (h : ∀ a b, p a = true → p b = true → before a b = false)
    (xs : List α) : (stableSort before xs).filter p = xs.filter p := by
  have hfold (sorted : List α) : (xs.foldl (fun sorted x => place before x sorted) sorted).filter p =
      (xs.filter p).reverse ++ sorted.filter p := by
    induction xs generalizing sorted with
    | nil => rfl
    | cons x xs ih =>
      have hcons : (x :: xs).filter p = [x].filter p ++ xs.filter p :=
        List.filter_append (p := p) [x] xs
      have hsingle : ([x].filter p).reverse = [x].filter p := by
        cases hx : p x <;> simp [hx]
      rw [List.foldl_cons, ih, place_filter h, hcons, List.reverse_append, hsingle,
        List.append_assoc]
  rw [stableSort, List.filter_reverse, hfold, List.filter_nil, List.append_nil, List.reverse_reverse]

/-- A list in order is left as it is. -/
theorem stableSort_eq_self {xs : List α} (h : xs.Pairwise fun a b => before b a = false) :
    stableSort before xs = xs := by
  have hfold (sorted : List α) (hsorted : ∀ y ∈ sorted, ∀ x ∈ xs, before x y = false) :
      xs.foldl (fun sorted x => place before x sorted) sorted = xs.reverse ++ sorted := by
    induction xs generalizing sorted with
    | nil => rfl
    | cons x xs ih =>
      obtain ⟨hx, hxs⟩ := List.pairwise_cons.mp h
      have hplace : place before x sorted = x :: sorted := by
        cases sorted with
        | nil => rfl
        | cons y ys =>
          rw [place, hsorted y (List.mem_cons_self ..) x (List.mem_cons_self ..), if_neg (by simp)]
      rw [List.foldl_cons, hplace, ih hxs, List.reverse_cons, List.append_assoc]
      · rfl
      · intro y hy z hz
        rcases List.mem_cons.mp hy with rfl | hy
        · exact hx z hz
        · exact hsorted y hy z (List.mem_cons_of_mem _ hz)
  rw [stableSort, hfold [] (by simp), List.append_nil, List.reverse_reverse]

/-! ## Sorting by a comparison -/

section Comparison

variable (cmp : α → α → Ordering) [Std.TransCmp cmp]

theorem ordersOn_compare : OrdersOn (fun a b => cmp a b == .lt) fun _ => True where
  asymm := by
    intro a b _ _ h
    simp [Std.OrientedCmp.gt_of_lt (beq_iff_eq.mp h)]
  cotrans := by
    intro a b c _ _ _ h
    simp only [beq_iff_eq] at h ⊢
    -- Where the third element stands to the first says where it stands to the other.
    cases hab : cmp a b with
    | lt => exact .inl rfl
    | eq => exact .inr ((Std.TransCmp.congr_left hab).symm.trans h)
    | gt => exact .inr (Std.TransCmp.lt_trans (Std.OrientedCmp.lt_of_gt hab) h)

/-- If only equal elements compare as equal, a sorted list depends on what the list held, and not on
the order in which it held it. -/
theorem stableSort_eq_of_perm [Std.LawfulEqCmp cmp] {xs ys : List α} (h : xs.Perm ys) :
    stableSort (fun a b => cmp a b == .lt) xs = stableSort (fun a b => cmp a b == .lt) ys := by
  have hsorted (zs : List α) : (stableSort (fun a b => cmp a b == .lt) zs).Pairwise
      (Ranked (fun a b => cmp a b == .lt) fun _ _ => True) :=
    stableSort_pairwise (ordersOn_compare cmp) (fun _ _ => trivial)
      (List.pairwise_of_forall fun _ _ => trivial)
  refine List.Perm.eq_of_pairwise ?_ (hsorted xs) (hsorted ys) ?_
  · intro a b _ _ hab hba
    have asymm := (ordersOn_compare cmp).asymm (a := a) (b := b) trivial trivial
    -- Neither comes before the other, so they compare as equal.
    rcases hab with hab | ⟨hba', -⟩
    · rcases hba with hba | ⟨hab', -⟩
      · simp [asymm hab] at hba
      · simp [hab] at hab'
    · rcases hba with hba | ⟨hab', -⟩
      · simp [hba] at hba'
      · have hequal : cmp a b = .eq := by
          cases hcmp : cmp a b with
          | eq => rfl
          | lt => simp [hcmp] at hab'
          | gt => simp [Std.OrientedCmp.lt_of_gt hcmp] at hba'
        exact Std.LawfulEqCmp.eq_of_compare hequal
  · exact ((stableSort_perm _ xs).trans h).trans (stableSort_perm _ ys).symm

end Comparison

/-! ## Sorting by an image -/

theorem place_map (f : β → α) (x : β) (xs : List β) :
    place before (f x) (xs.map f) = (place (fun a b => before (f a) (f b)) x xs).map f := by
  induction xs with
  | nil => rfl
  | cons y ys ih =>
    rw [List.map_cons, place, place]
    split
    · rw [List.map_cons, ih]
    · rfl

theorem stableSort_map (f : β → α) (xs : List β) :
    stableSort before (xs.map f) = (stableSort (fun a b => before (f a) (f b)) xs).map f := by
  have hfold (sorted : List β) :
      (xs.map f).foldl (fun sorted x => place before x sorted) (sorted.map f) =
        (xs.foldl (fun sorted x => place (fun a b => before (f a) (f b)) x sorted) sorted).map f := by
    induction xs generalizing sorted with
    | nil => rfl
    | cons x xs ih =>
      rw [List.map_cons, List.foldl_cons, List.foldl_cons, place_map]
      exact ih _
  rw [stableSort, stableSort, List.map_reverse]
  exact congrArg List.reverse (hfold [])

end ResourceApi
