import ResourceApi.Proofs.Query.Selection

/-!
# Paging

Pages of one size cut a list into consecutive pieces. A query string with a page number added asks
for such a piece of what it asks for without the number, so the pages of a listing, put one behind
the other, are the listing: none of its entities is lost and none is shown twice.

## Main definitions

- `Query.pagingKeys` — the keys that name a page
- `Query.AddsPage` — pairs that ask for one page of what other pairs ask for
- `Query.paging` — the parameters with a page added

## Main results

- `Window.flatMap_page` — the first pages of a list are its first items
- `Query.build_of_addsPage` — a page is added to a query that builds
- `Session.findAll_pages` — the pages of a listing

## Design notes

A page number has 32 bits. Where a listing has more pages than there are numbers, the pages show the
beginning of the listing.
-/

namespace ResourceApi

/-! ## Windows -/

namespace Window

variable {α : Type} {items : List α} {size : Nat}

theorem length_page (items : List α) (size number : Nat) :
    ((page number size).apply items).length = min size (items.length - (number - 1) * size) := by
  rw [apply, List.length_take, List.length_drop]
  rfl

theorem length_full_page {number : Nat} (hnumber : 1 ≤ number)
    (hfull : number ≤ items.length / size) : ((page number size).apply items).length = size := by
  have hitems : number * size ≤ items.length :=
    Nat.le_trans (Nat.mul_le_mul_right size hfull) (Nat.div_mul_le_self ..)
  have hpages : number * size = (number - 1) * size + size := by
    rw [← Nat.succ_mul, Nat.succ_eq_add_one, Nat.sub_add_cancel hnumber]
  rw [length_page]
  omega

theorem length_last_page (hsize : 1 ≤ size) :
    ((page (items.length / size + 1) size).apply items).length = items.length % size := by
  have hrest : items.length % size < size := Nat.mod_lt _ hsize
  have hitems : items.length / size * size + items.length % size = items.length :=
    Nat.div_add_mod' ..
  rw [length_page, Nat.add_sub_cancel]
  omega

theorem page_past_end {number : Nat} (hsize : 1 ≤ size)
    (hpast : items.length / size + 1 < number) : (page number size).apply items = [] := by
  have hitems : items.length < (items.length / size + 1) * size := by
    have hrest : items.length % size < size := Nat.mod_lt _ hsize
    have hdivided : items.length / size * size + items.length % size = items.length :=
      Nat.div_add_mod' ..
    rw [Nat.succ_mul]
    omega
  have hskipped : (items.length / size + 1) * size ≤ (number - 1) * size :=
    Nat.mul_le_mul_right size (by omega)
  rw [← List.length_eq_zero_iff, length_page]
  omega

/-- **The first pages of a list** are its first items. -/
theorem flatMap_page (items : List α) (size k : Nat) :
    ((List.range k).flatMap fun i => (page (i + 1) size).apply items) = items.take (k * size) := by
  induction k with
  | zero => rw [Nat.zero_mul, List.take_zero, List.range_zero, List.flatMap_nil]
  | succ k ih =>
    rw [List.range_succ, List.flatMap_append, ih, List.flatMap_singleton, Nat.succ_mul,
      List.take_add]
    rfl

end Window

/-! ## Adding a page -/

namespace Query

open ResourceApi.Number (decimal maxUInt32 readUnsigned)

def pagingKeys : List String := ["page", "per_page", "limit"]

/-- Pairs that name a page by its number, and perhaps by its size, and are the given ones otherwise.
The page may be named at any place, and repeatedly, and its size under either of its keys. -/
structure AddsPage (pairs : List (String × String)) (number : Nat) (size? : Option Nat)
    (paged : List (String × String)) : Prop where
  /-- Nothing else is added, and nothing is taken away. -/
  others : (paged.filter fun pair => !pagingKeys.contains pair.1) = pairs
  number : Parameters.Agree (Parameters.values .page paged) (some (decimal number))
  size : Parameters.Agree (Parameters.values .pageSize paged) (size?.map fun n : Nat => decimal n)

theorem readPositive_of_decimal {p : Parameter} {given : Parameters} {n : Nat}
    (hgiven : given p = some (decimal n)) (hpos : 0 < n) (hle : n ≤ maxUInt32) :
    readPositive p given = .ok (some n) := by
  have hdigits : readUnsigned maxUInt32 (decimal n).toList = some n := by
    rw [decimal, String.toList_ofList]
    exact Number.readUnsigned_natText hle
  have hwritten := (Number.readUnsigned_eq_some_iff.mp hdigits).1
  exact readPositive_eq_some_iff.mpr ⟨decimal n, hgiven, hwritten, hpos, hle⟩

theorem readPositive_of_asked {p : Parameter} {given : Parameters} {asked : Option Nat}
    (hgiven : given p = asked.map fun n : Nat => decimal n)
    (hasked : ∀ n ∈ asked, 0 < n ∧ n ≤ maxUInt32) : readPositive p given = .ok asked := by
  cases asked with
  | none => exact readPositive_eq_none_iff.mpr hgiven
  | some n =>
    obtain ⟨hpos, hle⟩ := hasked n rfl
    exact readPositive_of_decimal hgiven hpos hle

theorem readSort_congr {schema : Schema} {given given' : Parameters}
    (hsort : given' .sort = given .sort) (horder : given' .order = given .order) :
    readSort schema given' = readSort schema given := by
  rw [readSort, readSort, hsort, horder]

theorem not_reserved_filter_others (paged : List (String × String)) :
    ((paged.filter fun pair => !pagingKeys.contains pair.1).filter
      fun pair => !Parameter.isReserved pair.1) =
      paged.filter fun pair => !Parameter.isReserved pair.1 := by
  rw [List.filter_filter]
  -- The keys that name a page are parameters, so they are filtered out anyway.
  refine List.filter_congr fun pair _ => ?_
  simp only [Parameter.isReserved, Parameter.keys, pagingKeys]
  grind

/-- The values of a parameter that pages have no part in are not among what a page adds. -/
theorem values_filter_others {p : Parameter} (hp : p = .sort ∨ p = .order)
    (paged : List (String × String)) :
    Parameters.values p (paged.filter fun pair => !pagingKeys.contains pair.1) =
      Parameters.values p paged := by
  rw [Parameters.values, Parameters.values, List.filter_filter]
  refine congrArg _ (List.filter_congr fun pair _ => ?_)
  rcases hp with rfl | rfl <;> simp only [Parameter.ofKey?, pagingKeys] <;> grind

/-- The parameters with a page named by its number, and perhaps by its size. -/
def paging (given : Parameters) (number : Nat) (asked : Option Nat) : Parameters
  | .page => some (decimal number)
  | .pageSize => asked.map fun n : Nat => decimal n
  | .sort => given .sort
  | .order => given .order

/-- What is gathered when a page is added: the page is new, and the rest is as it was. -/
theorem gather_of_addsPage {given : Parameters} {pairs paged filters : List (String × String)}
    {number : Nat} {asked : Option Nat}
    (hgather : Parameters.gather Parameters.none pairs = .ok (given, filters))
    (hpaged : AddsPage pairs number asked paged) :
    Parameters.gather Parameters.none paged = .ok (paging given number asked, filters) := by
  obtain ⟨hfilters, hagree⟩ := Parameters.gather_none_eq_ok_iff.mp hgather
  rw [Parameters.gather_none_eq_ok_iff]
  refine ⟨?_, fun p => ?_⟩
  · rw [hfilters, ← hpaged.others, not_reserved_filter_others]
  · cases p with
    | page => exact hpaged.number
    | pageSize => exact hpaged.size
    | sort =>
      rw [← values_filter_others (.inl rfl), hpaged.others]
      exact hagree .sort
    | order =>
      rw [← values_filter_others (.inr rfl), hpaged.others]
      exact hagree .order

/-- **A page is added** to a query that builds, and nothing else about it changes. -/
theorem build_of_addsPage {schema : Schema} {limits : PageLimits}
    {pairs paged : List (String × String)} {q : Query} {number : Nat} {asked : Option Nat}
    (hbuild : build schema limits pairs = .ok q) (hpaged : AddsPage pairs number asked paged)
    (hnumber : 0 < number ∧ number ≤ maxUInt32) (hasked : ∀ n ∈ asked, 0 < n ∧ n ≤ maxUInt32) :
    build schema limits paged = .ok { q with
      window := some (Window.page number (min (asked.getD limits.standard) limits.greatest)) } := by
  obtain ⟨given, filters, hgather, hfilter, hsort, -⟩ := build_eq_ok_iff.mp hbuild
  have hnumbered : readPositive .page (paging given number asked) = .ok (some number) :=
    readPositive_of_decimal rfl hnumber.1 hnumber.2
  have hsized : readPositive .pageSize (paging given number asked) = .ok asked :=
    readPositive_of_asked rfl hasked
  have hwindow : readWindow limits (paging given number asked) = .ok (some
      (Window.page number (min (asked.getD limits.standard) limits.greatest))) :=
    readWindow_eq_ok_iff.mpr ⟨_, _, hnumbered, hsized, rfl⟩
  have hsorted : readSort schema (paging given number asked) = .ok q.sort :=
    (readSort_congr rfl rfl).trans hsort
  exact build_eq_ok_iff.mpr
    ⟨_, filters, gather_of_addsPage hgather hpaged, hfilter, hsorted, hwindow⟩

theorem not_mem_of_addsPage {pairs paged : List (String × String)} {number : Nat}
    {asked : Option Nat} (h : AddsPage pairs number asked paged) :
    ∀ pair ∈ pairs, pair.1 ∉ pagingKeys := by
  intro pair hpair
  rw [← h.others, List.mem_filter] at hpair
  simpa using hpair.2

/-- A page may be added behind the other pairs. -/
theorem addsPage_append {pairs : List (String × String)}
    (hpairs : ∀ pair ∈ pairs, pair.1 ∉ pagingKeys) (number : Nat)
    (asked : Option Nat) {key : String} (hkey : key ∈ Parameter.pageSize.names) :
    AddsPage pairs number asked (pairs ++
      ("page", decimal number) :: (asked.map fun n : Nat => (key, decimal n)).toList) := by
  have hkept : (pairs.filter fun pair => !pagingKeys.contains pair.1) = pairs :=
    List.filter_eq_self.mpr fun pair hpair => by simpa using hpairs pair hpair
  have hnone (p : Parameter) (hp : p.names ⊆ pagingKeys) :
      Parameters.values p pairs = [] := by
    refine List.eq_nil_iff_forall_not_mem.mpr fun value hvalue => ?_
    obtain ⟨name, hname, hpair⟩ := Parameters.mem_values_iff.mp hvalue
    exact hpairs _ hpair (hp hname)
  have hsized : Parameter.ofKey? key = some .pageSize := Parameter.ofKey?_eq_some_iff.mpr hkey
  have hpage : Parameter.ofKey? "page" = some .page := rfl
  refine ⟨?_, ?_, ?_⟩
  · have hadded : key = "per_page" ∨ key = "limit" := by simpa [Parameter.names] using hkey
    rw [List.filter_append, hkept]
    cases asked <;> rcases hadded with rfl | rfl <;> simp [pagingKeys]
  · rw [Parameters.values_append, hnone .page (by decide), List.nil_append]
    cases asked <;> simp [Parameters.values, Parameters.Agree, hpage, hsized]
  · rw [Parameters.values_append, hnone .pageSize (by decide), List.nil_append]
    cases asked <;> simp [Parameters.values, Parameters.Agree, hpage, hsized]

end Query

/-! ## Pages of a listing -/

variable {E : Type} [Entity E]

namespace Store

theorem select_window {s : Store E} {q : Query} (hwindow : q.window = none) (w : Window) :
    s.select { q with window := some w } = w.apply (s.select q) := by
  rw [select, select, hwindow]

end Store

namespace Session

open ResourceApi.Number (maxUInt32)

theorem findAll_window {x : Session E} {q : Query} (hwindow : q.window = none) {all : List E}
    (hall : (x.findAll q).1 = .ok all) (w : Window) :
    (x.findAll { q with window := some w }).1 = .ok (w.apply all) := by
  unfold findAll at hall ⊢
  cases hfault : x.store.faults.findAll with
  | some failure =>
    rw [hfault] at hall
    cases hall
  | none =>
    rw [hfault] at hall
    obtain rfl : x.store.select q = all := Except.ok.inj hall
    exact congrArg Except.ok (Store.select_window hwindow w)

/-- **The pages of a listing**: a page of at most `greatest` entities, or of the standard size if no
size is asked for, is added to pairs that build a query. Then every page number up to the greatest
one builds a query too; the pages are full, but for the last one, which has what is left, and all
pages behind it are empty; and one behind the other they are what is listed without a page. -/
theorem findAll_pages {schema : Schema} {standard greatest : Nat} (x : Session E)
    {pairs : List (String × String)} {q : Query}
    (hbuild : Query.build schema (.clamp standard greatest) pairs = .ok q) {all : List E}
    (hall : (x.findAll q).1 = .ok all) {asked : Option Nat}
    (hasked : ∀ n ∈ asked, 0 < n ∧ n ≤ maxUInt32) :
    let size := asked.elim (PageLimits.clamp standard greatest).standard (min · (max 1 greatest))
    ∃ page : Nat → List E,
      (∀ number, 0 < number → number ≤ maxUInt32 → ∀ paged,
        Query.AddsPage pairs number asked paged → ∃ q',
          Query.build schema (.clamp standard greatest) paged = .ok q' ∧
            (x.findAll q').1 = .ok (page number)) ∧
      (∀ number, 0 < number → number ≤ all.length / size → (page number).length = size) ∧
      (page (all.length / size + 1)).length = all.length % size ∧
      (∀ number, all.length / size + 1 < number → page number = []) ∧
      (∀ k, ((List.range k).flatMap fun i => page (i + 1)) = all.take (k * size)) ∧
      ∀ k, all.length ≤ k * size → ((List.range k).flatMap fun i => page (i + 1)) = all := by
  intro size
  have hsize : min (asked.getD (PageLimits.clamp standard greatest).standard)
      (PageLimits.clamp standard greatest).greatest = size := by
    cases asked with
    | none => exact Nat.min_eq_left (PageLimits.clamp standard greatest).standard_le
    | some n => exact congrArg (min n) (Nat.max_comm ..)
  -- The bounds of pages are kept in order, so no size is zero and every page takes the list further.
  have hpos : 1 ≤ size := by
    cases asked with
    | none => exact (PageLimits.clamp standard greatest).standard_pos
    | some n =>
      have hn := (hasked n rfl).1
      show 1 ≤ min n (max 1 greatest)
      omega
  refine ⟨fun number => (Window.page number size).apply all, ?_, ?_, ?_, ?_, ?_, ?_⟩
  · intro number hpos hle paged hpaged
    -- The pairs without the page name none, so their query lists everything.
    have hunpaged : q.window = none :=
      (Query.build_cases hbuild).2.2 (Query.not_mem_of_addsPage hpaged)
    have hbuilt := Query.build_of_addsPage hbuild hpaged ⟨hpos, hle⟩ hasked
    rw [hsize] at hbuilt
    exact ⟨_, hbuilt, findAll_window hunpaged hall _⟩
  · intro number hnumber hfull
    exact Window.length_full_page hnumber hfull
  · exact Window.length_last_page hpos
  · intro number hpast
    exact Window.page_past_end hpos hpast
  · intro k
    exact Window.flatMap_page all size k
  · intro k hk
    rw [Window.flatMap_page, List.take_of_length_le hk]

/-- Three items in pages of two: two items, one item, and nothing more. -/
theorem findAll_pages_by_name :
    ∃ q all, Query.build Item.schema (.clamp 20 100) [("sort", "name")] = .ok q ∧
      (stocked.findAll q).1 = .ok all ∧ ∃ page : Nat → List Item,
        (∃ q', Query.build Item.schema (.clamp 20 100)
            [("sort", "name"), ("page", "2"), ("limit", "2")] = .ok q' ∧
          (stocked.findAll q').1 = .ok (page 2)) ∧
        (page 1).length = 2 ∧ (page 2).length = 1 ∧ page 3 = [] ∧ page 1 ++ page 2 = all := by
  obtain ⟨q, hbuild⟩ : ∃ q,
      Query.build Item.schema (.clamp 20 100) [("sort", "name")] = .ok q := ⟨_, rfl⟩
  have hall : (stocked.findAll q).1 =
      .ok [⟨3, "cup", 9, none⟩, ⟨2, "ink", 8, none⟩, ⟨1, "pen", 5, none⟩] := by
    obtain rfl := Except.ok.inj hbuild
    rfl
  have hasked : ∀ n ∈ some 2, 0 < n ∧ n ≤ maxUInt32 := by decide
  obtain ⟨page, hpage, hfull, hlast, hpast, -, hjoined⟩ :=
    findAll_pages stocked hbuild hall hasked
  have hadded : Query.AddsPage [("sort", "name")] 2 (some 2)
      [("sort", "name"), ("page", "2"), ("limit", "2")] :=
    Query.addsPage_append (by decide) 2 (some 2) (by decide)
  refine ⟨q, _, hbuild, hall, page, hpage 2 (by decide) (by decide) _ hadded, ?_, ?_, ?_, ?_⟩
  · exact hfull 1 (by decide) (by decide)
  · exact hlast
  · exact hpast 3 (by decide)
  · have htwo := hjoined 2 (by decide)
    simpa [List.range_succ] using htwo

end Session

end ResourceApi
