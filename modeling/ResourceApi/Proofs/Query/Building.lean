import ResourceApi.Proofs.Filter.Trees
import ResourceApi.Proofs.Number.Digits
import ResourceApi.Proofs.Query.Meaning
import ResourceApi.Proofs.Query.Parameters
import ResourceApi.Proofs.StableSort

/-!
# What a built query filters

The filter of a query that builds is the conjunction of the pairs that name no parameter: the query
admits an entity where each of these pairs holds of it.

## Main definitions

- `Filter.Expression.joined` — the conjunction of comparisons, if there are any
- `Query.admits` — the fields satisfy the filter of a query, if it has one
- `Query.windowFor` — the page with a number and a size, where either of them is given

## Main results

- `Query.readFilter_eq_ok_iff` — a filter joins what the pairs are read and resolved as
- `Query.readPositive_eq_some_iff`, `Query.readWindow_eq_ok_iff` — numbers and pages
- `Query.build_eq_ok_iff` — a query is built from four readings
- `Query.admits_iff_holds` — a built query admits the fields of which its pairs hold
-/

namespace ResourceApi

open ResourceApi.Filter

/-! ## Conjunctions -/

namespace Filter.Expression

variable {U V ε : Type}

def conjunction (leaves : List (Comparison V)) : Expression V := .all (leaves.map .comparison)

/-- The conjunction of comparisons, or nothing if there are none. -/
def joined : List (Comparison V) → Option (Expression V)
  | [] => none
  | leaf :: leaves => some (conjunction (leaf :: leaves))

theorem leaves_conjunction (leaves : List (Comparison V)) :
    (conjunction leaves).leaves = leaves := by
  rw [conjunction, Expression.leaves]
  induction leaves with
  | nil => rfl
  | cons leaf leaves ih => rw [List.map_cons, leavesOfAll, ih, Expression.leaves]; rfl

theorem holds_conjunction (p : Comparison V → Bool) (leaves : List (Comparison V)) :
    (conjunction leaves).holds p = leaves.all p := by
  rw [holds_eq_all_leaves, leaves_conjunction]

theorem mapM_conjunction (f : Comparison V → Except ε (Comparison U))
    (leaves : List (Comparison V)) :
    (conjunction leaves).mapM f = conjunction <$> leaves.mapM f := by
  have hall : mapAllM f (leaves.map .comparison) = (List.map .comparison) <$> leaves.mapM f := by
    induction leaves with
    | nil => rfl
    | cons leaf leaves ih =>
      rw [List.map_cons, mapAllM, mapM, ih, List.mapM_cons]
      cases f leaf with
      | error e => rfl
      | ok r => cases leaves.mapM f <;> rfl
  rw [conjunction, mapM, hall]
  cases leaves.mapM f <;> rfl

end Filter.Expression

namespace Query

/-- The fields satisfy a filter, if there is one. -/
def admits (filter : Option (Expression Value)) (fields : String → Option Value) : Bool :=
  match filter with
  | none => true
  | some e => e.satisfiedBy fields

theorem admits_joined (resolved : List (Comparison Value)) (fields : String → Option Value) :
    admits (Expression.joined resolved) fields = resolved.all (Comparison.satisfiedBy fields) := by
  cases resolved with
  | nil => rfl
  | cons leaf leaves => exact Expression.holds_conjunction _ (leaf :: leaves)

/-- Comparisons in their fixed order. -/
def arranged (leaves : List (Comparison String)) : List (Comparison String) :=
  stableSort (fun a b => compareComparisons a b == .lt) leaves

theorem arranged_perm (leaves : List (Comparison String)) : (arranged leaves).Perm leaves :=
  stableSort_perm _ leaves

/-- A filter joins what the comparisons of the pairs, in their fixed order, are resolved as. -/
theorem readFilter_eq (schema : Schema) (pairs : List (String × String)) :
    readFilter schema pairs = readAll pairs >>= fun leaves =>
      Expression.joined <$> (arranged leaves).mapM (resolve schema) := by
  rw [readFilter, readPairs]
  cases readAll pairs with
  | error fault => rfl
  | ok leaves =>
    cases leaves with
    | nil => rfl
    | cons leaf leaves =>
      change some <$> resolveAll schema (.conjunction (arranged (leaf :: leaves))) =
        Expression.joined <$> (arranged (leaf :: leaves)).mapM (resolve schema)
      rw [resolveAll, Expression.mapM_conjunction]
      -- What is in order is not empty, and neither is what it is resolved as.
      have hmem := (arranged_perm (leaf :: leaves)).mem_iff.mpr (List.mem_cons_self ..)
      cases hresolved : (arranged (leaf :: leaves)).mapM (resolve schema) with
      | error fault => rfl
      | ok resolved =>
        obtain ⟨found, hfound, -⟩ := ok_of_mapM_ok hresolved hmem
        cases resolved with
        | nil => exact absurd hfound List.not_mem_nil
        | cons first rest => rfl

theorem readFilter_eq_ok_iff {schema : Schema} {pairs : List (String × String)}
    {filter : Option (Expression Value)} :
    readFilter schema pairs = .ok filter ↔ ∃ leaves resolved, readAll pairs = .ok leaves ∧
      (arranged leaves).mapM (resolve schema) = .ok resolved ∧
        Expression.joined resolved = filter := by
  rw [readFilter_eq, bind_eq_ok_iff]
  simp only [map_eq_ok_iff, exists_and_left]

/-- **The filter of a query** admits the fields of which every pair holds, each taken by itself. -/
theorem admits_iff_holds {schema : Schema} {pairs : List (String × String)}
    {filter : Option (Expression Value)} (h : readFilter schema pairs = .ok filter)
    (fields : String → Option Value) :
    admits filter fields ↔ ∀ pair ∈ pairs, Holds schema fields pair := by
  obtain ⟨leaves, resolved, hleaves, hresolved, rfl⟩ := readFilter_eq_ok_iff.mp h
  rw [admits_joined, List.all_eq_true]
  constructor
  · intro hall pair hpair
    obtain ⟨c, hc, hread⟩ := ok_of_mapM_ok hleaves hpair
    obtain ⟨r, hr, hresolve⟩ := ok_of_mapM_ok hresolved ((arranged_perm leaves).mem_iff.mpr hc)
    exact (satisfiedBy_iff_holds hread hresolve fields).mp (hall r hr)
  · intro hall r hr
    obtain ⟨c, hc, hresolve⟩ := (mem_of_mapM_ok hresolved).mp hr
    obtain ⟨pair, hpair, hread⟩ :=
      (mem_of_mapM_ok hleaves).mp ((arranged_perm leaves).mem_iff.mp hc)
    exact (satisfiedBy_iff_holds hread hresolve fields).mpr (hall pair hpair)

/-! ## Numbers and pages -/

open ResourceApi.Number (WrittenFor maxUInt32 readUnsigned)

variable {limits : PageLimits} {given : Parameters}

theorem readPositive_eq_none_iff {p : Parameter} :
    readPositive p given = .ok none ↔ given p = none := by
  rw [readPositive]
  cases given p with
  | none => simp
  | some raw =>
    dsimp only
    cases (readUnsigned maxUInt32 raw.toList).filter fun n => decide (0 < n) <;> simp

theorem readPositive_eq_some_iff {p : Parameter} {n : Nat} :
    readPositive p given = .ok (some n) ↔
      ∃ raw, given p = some raw ∧ WrittenFor raw.toList n ∧ 0 < n ∧ n ≤ maxUInt32 := by
  rw [readPositive]
  cases given p with
  | none => simp
  | some raw =>
    have hread : WrittenFor raw.toList n ∧ 0 < n ∧ n ≤ maxUInt32 ↔
        (readUnsigned maxUInt32 raw.toList).filter (fun n => decide (0 < n)) = some n := by
      rw [Option.filter_eq_some_iff, decide_eq_true_iff, Number.readUnsigned_eq_some_iff, and_assoc,
        and_comm (a := n ≤ maxUInt32)]
    simp only [Option.some.injEq, exists_eq_left', hread]
    cases (readUnsigned maxUInt32 raw.toList).filter fun n => decide (0 < n) <;> simp

/-- The page with a number and a size, where either of them is given. -/
def windowFor (limits : PageLimits) : Option Nat → Option Nat → Option Window
  | none, none => none
  | number, size =>
    some (.page (number.getD 1) (min (size.getD limits.standard) limits.greatest))

theorem readWindow_eq_ok_iff {window : Option Window} :
    readWindow limits given = .ok window ↔ ∃ number size, readPositive .page given = .ok number ∧
      readPositive .pageSize given = .ok size ∧ windowFor limits number size = window := by
  constructor
  · intro h
    obtain ⟨number, hnumber, h⟩ := bind_eq_ok_iff.mp h
    obtain ⟨size, hsize, h⟩ := bind_eq_ok_iff.mp h
    refine ⟨number, size, hnumber, hsize, ?_⟩
    cases number <;> cases size <;> exact Except.ok.inj h
  · rintro ⟨number, size, hnumber, hsize, rfl⟩
    rw [readWindow, hnumber, hsize]
    cases number <;> cases size <;> rfl

/-! ## Building -/

/-- A query is built from four readings of the pairs. -/
theorem build_eq_ok_iff {schema : Schema} {limits : PageLimits} {pairs : List (String × String)}
    {q : Query} :
    build schema limits pairs = .ok q ↔ ∃ given filters,
      Parameters.gather Parameters.none pairs = .ok (given, filters) ∧
        readFilter schema filters = .ok q.filter ∧ readSort schema given = .ok q.sort ∧
          readWindow limits given = .ok q.window := by
  unfold build
  constructor
  · intro h
    obtain ⟨⟨given, filters⟩, hgather, h⟩ := bind_eq_ok_iff.mp h
    obtain ⟨filter, hfilter, h⟩ := bind_eq_ok_iff.mp h
    obtain ⟨sort, hsort, h⟩ := bind_eq_ok_iff.mp h
    obtain ⟨window, hwindow, h⟩ := bind_eq_ok_iff.mp h
    obtain rfl := Except.ok.inj h
    exact ⟨given, filters, hgather, hfilter, hsort, hwindow⟩
  · rintro ⟨given, filters, hgather, hfilter, hsort, hwindow⟩
    refine bind_eq_ok_iff.mpr ⟨(given, filters), hgather, ?_⟩
    refine bind_eq_ok_iff.mpr ⟨q.filter, hfilter, ?_⟩
    refine bind_eq_ok_iff.mpr ⟨q.sort, hsort, ?_⟩
    exact bind_eq_ok_iff.mpr ⟨q.window, hwindow, rfl⟩

theorem sort_of_not_given {schema : Schema} {given : Parameters} {sort : Option SortKey}
    (hgiven : given .sort = none) (h : readSort schema given = .ok sort) : sort = none := by
  rw [readSort, hgiven] at h
  exact (Except.ok.inj h).symm

theorem window_of_not_given {limits : PageLimits} {given : Parameters} {window : Option Window}
    (hpage : given .page = none) (hsize : given .pageSize = none)
    (h : readWindow limits given = .ok window) : window = none := by
  rw [readWindow, readPositive_eq_none_iff.mpr hpage, readPositive_eq_none_iff.mpr hsize] at h
  exact (Except.ok.inj h).symm

/-- **What a built query asks for**: its filter admits the fields of which all pairs hold that name
no parameter, it sorts only if a field to sort by is named, and it shows a page only if the number
or the size of a page is named. -/
theorem build_cases {schema : Schema} {limits : PageLimits} {pairs : List (String × String)}
    {q : Query} (h : build schema limits pairs = .ok q) :
    (∀ fields, admits q.filter fields ↔ ∀ pair ∈ pairs, Parameter.isReserved pair.1 = false →
        Holds schema fields pair) ∧
      ((∀ pair ∈ pairs, pair.1 ∉ Parameter.sort.names) → q.sort = none) ∧
      ((∀ pair ∈ pairs, pair.1 ∉ Parameter.page.names ++ Parameter.pageSize.names) →
        q.window = none) := by
  obtain ⟨given, filters, hgather, hfilter, hsort, hwindow⟩ := build_eq_ok_iff.mp h
  refine ⟨fun fields => ?_, fun hnames => ?_, fun hnames => ?_⟩
  · rw [admits_iff_holds hfilter, Parameters.filters_of_gather hgather]
    simp [List.mem_filter]
  · exact sort_of_not_given (Parameters.given_of_gather hgather hnames) hsort
  · have hpage := Parameters.given_of_gather (p := .page) hgather fun pair hpair hname =>
      hnames pair hpair (List.mem_append_left _ hname)
    have hsize := Parameters.given_of_gather (p := .pageSize) hgather fun pair hpair hname =>
      hnames pair hpair (List.mem_append_right _ hname)
    exact window_of_not_given hpage hsize hwindow

end Query

end ResourceApi
