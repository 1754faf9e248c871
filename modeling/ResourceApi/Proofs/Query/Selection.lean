import ResourceApi.Catalog.Item
import ResourceApi.Proofs.Query.Building
import ResourceApi.Store.Session

/-!
# What a built query selects

A query that builds selects every committed entity of which its pairs hold, once, and no other one.

## Main definitions

- `Store.admitted` — the committed entities that a filter admits, under their identifiers

## Main results

- `Session.findAll_selects` — what a store lists for the pairs of a query string
-/

namespace ResourceApi

open ResourceApi.Filter

variable {E : Type}

theorem Store.toList_increasing (s : Store E) :
    s.entities.toList.Pairwise fun a b => a.1 < b.1 := by
  refine Std.ExtTreeMap.ordered_keys_toList.imp ?_
  intro a b h
  exact Int.compare_eq_lt.mp h

variable [Entity E]

/-- The committed entities that a filter admits, under their identifiers. -/
def Store.admitted (s : Store E) (filter : Option (Expression Value)) : List (Int × E) :=
  s.entities.toList.filter fun entry => Query.admits filter (Entity.field entry.2)

namespace Store

theorem admitted_increasing (s : Store E) (filter : Option (Expression Value)) :
    (s.admitted filter).Pairwise fun a b => a.1 < b.1 :=
  s.toList_increasing.filter _

theorem mem_admitted_iff {s : Store E} {filter : Option (Expression Value)} {id : Int} {e : E} :
    (id, e) ∈ s.admitted filter ↔
      s.get? id = some e ∧ Query.admits filter (Entity.field e) := by
  rw [admitted, List.mem_filter, Std.ExtTreeMap.mem_toList_iff_getElem?_eq_some]
  rfl

/-- Without a page, a query selects what its filter admits, in the order it asks for. -/
theorem select_of_unpaged {s : Store E} {q : Query} (hwindow : q.window = none) :
    s.select q = match q.sort with
      | none => (s.admitted q.filter).map Prod.snd
      | some key => key.apply Entity.field ((s.admitted q.filter).map Prod.snd) := by
  have hchosen : s.toList.filter (fun e => Query.admits q.filter (Entity.field e)) =
      (s.admitted q.filter).map Prod.snd := by
    rw [toList, admitted, List.filter_map]
    rfl
  rw [← hchosen, select, hwindow]
  rfl

/-- An order neither adds entities to a selection nor takes any away. -/
theorem select_perm {s : Store E} {q : Query} (hwindow : q.window = none) :
    (s.select q).Perm ((s.admitted q.filter).map Prod.snd) := by
  rw [select_of_unpaged hwindow]
  cases q.sort with
  | none => exact .refl _
  | some key => exact stableSort_perm _ _

end Store

namespace Session

/-- **What a store lists for the pairs of a query string**, if they build a query and name no page:
every committed entity once of which all pairs hold that name no parameter, and no other entity; and
in the order of the identifiers, unless the pairs name a field to sort by. A listing only fails
where a failure is planted for it. -/
theorem findAll_selects {schema : Schema} {limits : PageLimits} (x : Session E)
    {pairs : List (String × String)}
    (hpaging : ∀ pair ∈ pairs, pair.1 ∉ ["page", "per_page", "limit"]) {q : Query}
    (hbuild : Query.build schema limits pairs = .ok q) :
    ∃ found entries, (x.findAll q).1 = x.store.faults.findAll.elim (.ok found) .error ∧
      (entries : List (Int × E)).Pairwise (fun a b => a.1 < b.1) ∧
      (∀ id e, (id, e) ∈ entries ↔ x.store.get? id = some e ∧
        ∀ pair ∈ pairs, Parameter.isReserved pair.1 = false →
          Query.Holds schema (Entity.field e) pair) ∧
      found.Perm (entries.map Prod.snd) ∧
      ((∀ pair ∈ pairs, pair.1 ≠ "sort") → found = entries.map Prod.snd) := by
  obtain ⟨hadmits, hsort, hwindow⟩ := Query.build_cases hbuild
  have hunpaged : q.window = none := hwindow hpaging
  refine ⟨x.store.select q, x.store.admitted q.filter, ?_, x.store.admitted_increasing _,
    fun id e => ?_, Store.select_perm hunpaged, fun hnames => ?_⟩
  · rw [findAll]
    cases x.store.faults.findAll <;> rfl
  · rw [Store.mem_admitted_iff, hadmits]
  · have hunsorted : q.sort = none := by
      refine hsort fun pair hpair hname => hnames pair hpair ?_
      exact List.mem_singleton.mp hname
    rw [Store.select_of_unpaged hunpaged, hunsorted]

/-- A stock of three items. -/
def stocked : Session Item :=
  ⟨.ofList [⟨1, "pen", 5, none⟩, ⟨2, "ink", 8, none⟩, ⟨3, "cup", 9, none⟩], ∅⟩

/-- Of the three items one is listed for a part of its name and a bound below its quantity. -/
theorem findAll_selects_ink :
    ∃ q found, Query.build Item.schema .usual [("name[like]", "%n_"), ("qty[gt]", "5")] = .ok q ∧
      (stocked.findAll q).1 = .ok found ∧ ⟨2, "ink", 8, none⟩ ∈ found := by
  obtain ⟨q, hbuild⟩ : ∃ q,
      Query.build Item.schema .usual [("name[like]", "%n_"), ("qty[gt]", "5")] = .ok q := ⟨_, rfl⟩
  obtain ⟨found, entries, hfound, -, hentries, -, hunsorted⟩ :=
    findAll_selects stocked (by decide) hbuild
  refine ⟨q, found, hbuild, hfound, ?_⟩
  rw [hunsorted (by decide), List.mem_map]
  refine ⟨(2, ⟨2, "ink", 8, none⟩), (hentries _ _).mpr ⟨rfl, ?_⟩, rfl⟩
  intro pair hpair hreserved
  rcases List.mem_cons.mp hpair with rfl | hpair
  · have hread : readPair "name[like]" "%n_" = .ok ⟨"name", .like, "%n_"⟩ := rfl
    exact ⟨_, _, .text, .text "ink", (readPair_eq_ok_iff.mp hread).1, rfl, rfl, "ink", rfl,
      like_iff.mp (by decide)⟩
  · obtain rfl := List.mem_singleton.mp hpair
    have hread : readPair "qty[gt]" "5" = .ok ⟨"qty", .gt, "5"⟩ := rfl
    exact ⟨_, _, .integer, .integer 8, (readPair_eq_ok_iff.mp hread).1, rfl, rfl, .integer 5, rfl,
      rfl⟩

end Session

end ResourceApi
