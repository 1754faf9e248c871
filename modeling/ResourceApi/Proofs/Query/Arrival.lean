import ResourceApi.Catalog.Item
import ResourceApi.Proofs.Query.Building

/-!
# The order in which pairs arrive

A query string says the same whatever the order of its pairs. Comparisons are put into an order of
their own, in which only equal ones are tied, and a parameter that is given several times has to be
given the same value each time, so there is no first value that would count for more.

## Main results

- `Filter.readPairs_of_perm` — the same conjunction from the same pairs
- `Query.build_eq_ok_iff_of_perm` — the same query from the same pairs
-/

namespace ResourceApi

namespace Filter

/-! ## The fixed order of comparisons -/

theorem Operator.eq_of_rank_eq {a b : Operator} (h : a.rank = b.rank) : a = b := by
  cases a <;> cases b <;> first | rfl | cases h

instance : Std.TransCmp compareComparisons :=
  inferInstanceAs (Std.TransCmp (compareLex (compareOn Comparison.field)
    (compareLex (compareOn fun c => c.operator.rank) (compareOn Comparison.operand))))

/-- Comparisons that are not told apart agree in all three parts. -/
instance : Std.LawfulEqCmp compareComparisons where
  compare_self := Std.ReflCmp.compare_self
  eq_of_compare := by
    rintro ⟨field, operator, operand⟩ ⟨field', operator', operand'⟩ h
    simp only [compareComparisons, Ordering.then_eq_eq, Std.compare_eq_iff_eq] at h
    obtain ⟨rfl, hrank, rfl⟩ := h
    rw [Operator.eq_of_rank_eq hrank]

theorem readPairs_of_perm {pairs pairs' : List (String × String)} (hperm : pairs.Perm pairs')
    {tree : Option (Expression String)} (h : readPairs pairs = .ok tree) :
    readPairs pairs' = .ok tree := by
  obtain ⟨leaves, hleaves, h⟩ := bind_eq_ok_iff.mp h
  obtain ⟨leaves', hleaves', hperm⟩ := mapM_ok_of_perm hperm hleaves
  refine bind_eq_ok_iff.mpr ⟨leaves', hleaves', ?_⟩
  have hsorted := stableSort_eq_of_perm compareComparisons hperm
  cases leaves with
  | nil => rwa [List.nil_perm.mp hperm]
  | cons leaf leaves =>
    cases leaves' with
    | nil => exact absurd hperm.length_eq (by simp)
    | cons leaf' leaves' =>
      dsimp only at h ⊢
      rwa [← hsorted]

end Filter

namespace Query

theorem readFilter_of_perm {schema : Schema} {pairs pairs' : List (String × String)}
    (hperm : pairs.Perm pairs') {filter : Option (Filter.Expression Value)}
    (h : readFilter schema pairs = .ok filter) : readFilter schema pairs' = .ok filter := by
  obtain ⟨tree, htree, h⟩ := bind_eq_ok_iff.mp h
  exact bind_eq_ok_iff.mpr ⟨tree, Filter.readPairs_of_perm hperm htree, h⟩

theorem build_of_perm {schema : Schema} {limits : PageLimits} {pairs pairs' : List (String × String)}
    (hperm : pairs.Perm pairs') {q : Query} (h : build schema limits pairs = .ok q) :
    build schema limits pairs' = .ok q := by
  obtain ⟨given, filters, hgather, hfilter, hsort, hwindow⟩ := build_eq_ok_iff.mp h
  obtain ⟨filters', hgather', hperm⟩ := Parameters.gather_of_perm hperm hgather
  exact build_eq_ok_iff.mpr
    ⟨given, filters', hgather', readFilter_of_perm hperm hfilter, hsort, hwindow⟩

/-- **The order of the pairs does not matter**: pairs build a query in every order or in none, and
in every order it is the same query. -/
theorem build_eq_ok_iff_of_perm (schema : Schema) (limits : PageLimits)
    {pairs pairs' : List (String × String)} (hperm : pairs.Perm pairs') (q : Query) :
    build schema limits pairs = .ok q ↔ build schema limits pairs' = .ok q :=
  ⟨build_of_perm hperm, build_of_perm hperm.symm⟩

/-- A field is compared three times and the size of the page given under both its keys. -/
theorem build_shuffled_stock :
    let pairs := [("limit", "5"), ("qty[lt]", "9"), ("sort", "name"), ("qty[gte]", "2"),
      ("per_page", "5"), ("qty[lt]", "10"), ("sort", "name")]
    let shuffled := [("sort", "name"), ("qty[lt]", "10"), ("per_page", "5"), ("qty[lt]", "9"),
      ("sort", "name"), ("limit", "5"), ("qty[gte]", "2")]
    pairs.Perm shuffled ∧ ∃ q, build Item.schema .usual pairs = .ok q ∧
      build Item.schema .usual shuffled = .ok q ∧ q.sort = some ⟨"name", .ascending⟩ ∧
      q.window = some ⟨0, 5⟩ ∧
      q.comparisons = [⟨"qty", .gte, .integer 2⟩, ⟨"qty", .lt, .integer 10⟩,
        ⟨"qty", .lt, .integer 9⟩] := by
  intro pairs shuffled
  have hperm : pairs.Perm shuffled := by decide
  obtain ⟨q, hbuild, hq⟩ : ∃ q, build Item.schema .usual pairs = .ok q ∧
      q.sort = some ⟨"name", .ascending⟩ ∧ q.window = some ⟨0, 5⟩ ∧
      q.comparisons = [⟨"qty", .gte, .integer 2⟩, ⟨"qty", .lt, .integer 10⟩,
        ⟨"qty", .lt, .integer 9⟩] := ⟨_, rfl, rfl, rfl, rfl⟩
  exact ⟨hperm, q, hbuild, (build_eq_ok_iff_of_perm Item.schema .usual hperm q).mp hbuild, hq⟩

end Query

end ResourceApi
