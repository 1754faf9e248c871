import ResourceApi.Proofs.Query.Acceptance
import ResourceApi.Proofs.Query.Selection

/-!
# Queries of one filter

A pair that names no parameter and stands for a comparison builds a query by itself, and what a
store lists for that query are the entities of which the pair holds, each once, in the order of
their identifiers.

## Main results

- `Query.acceptable_single` — one pair that makes sense
- `Query.holds_iff_of_spells` — what it asks for
- `Session.findAll_single` — what a store lists for it
- `Session.findAll_equal` — what it lists for a field and the text of a value
-/

namespace ResourceApi

open ResourceApi.Filter

namespace Query

variable {schema : Schema} {pair : String × String}

/-- A key that is not reserved names no parameter. -/
theorem not_given_single (hfree : Parameter.isReserved pair.1 = false) (p : Parameter)
    (value : String) : ¬ Parameter.Given [pair] p value := by
  rintro ⟨key, hkey, hmem⟩
  obtain rfl : (key, value) = pair := List.mem_singleton.mp hmem
  have hreserved := Parameter.isReserved_of_ofKey? (Parameter.ofKey?_eq_some_iff.mpr hkey)
  exact Bool.false_ne_true (hfree.symm.trans hreserved)

theorem acceptable_single (hfree : Parameter.isReserved pair.1 = false) {c : Comparison Value}
    (h : StandsAs schema pair c) : Acceptable schema [pair] where
  filters _ hother _ := List.mem_singleton.mp hother ▸ ⟨c, h⟩
  agree p v _ hv := absurd hv (not_given_single hfree p v)
  taken p value hvalue := absurd hvalue (not_given_single hfree p value)

/-- A pair holds where the field that its key spells meets the operator that its key spells. -/
theorem holds_iff_of_spells {key field raw : String} {op : Operator} {type : FieldType}
    (hspells : Spells key field op) (htype : schema.type? field = some type)
    (fields : String → Option Value) :
    Holds schema fields (key, raw) ↔
      ∃ actual, fields field = some actual ∧ op.Meets type raw actual := by
  constructor
  · rintro ⟨field', op', type', actual, hspells', htype', hactual, hmet⟩
    -- A key spells one field and one operator only.
    have hread := readPair_eq_ok_iff (c := ⟨field, op, raw⟩).mpr ⟨hspells, rfl⟩
    have hread' := readPair_eq_ok_iff (c := ⟨field', op', raw⟩).mpr ⟨hspells', rfl⟩
    obtain ⟨rfl, rfl, -⟩ := Comparison.mk.inj (Except.ok.inj (hread.symm.trans hread'))
    obtain rfl : type = type' := Option.some.inj (htype.symm.trans htype')
    exact ⟨actual, hactual, hmet⟩
  · rintro ⟨actual, hactual, hmet⟩
    exact ⟨field, op, type, actual, hspells, htype, hactual, hmet⟩

end Query

variable {E : Type} [Entity E]

/-- **What a store lists for one filter.** -/
theorem Session.findAll_single {schema : Schema} (limits : PageLimits) (x : Session E)
    {pair : String × String} (hfree : Parameter.isReserved pair.1 = false) {c : Comparison Value}
    (hstands : Query.StandsAs schema pair c) :
    ∃ q entries, Query.build schema limits [pair] = .ok q ∧
      (x.findAll q).1 = x.store.faults.findAll.elim (.ok (entries.map Prod.snd)) .error ∧
      (entries : List (Int × E)).Pairwise (fun a b => a.1 < b.1) ∧
      ∀ id e, (id, e) ∈ entries ↔
        x.store.get? id = some e ∧ Query.Holds schema (Entity.field e) pair := by
  obtain ⟨q, hbuild⟩ : ∃ q, Query.build schema limits [pair] = .ok q :=
    Query.exists_build_iff.mpr (Query.acceptable_single hfree hstands)
  obtain ⟨hadmits, hsort, hwindow⟩ := Query.build_cases hbuild
  have hnames : ∀ p : Parameter, pair.1 ∉ p.names := by
    intro p hname
    exact Query.not_given_single hfree p pair.2 ⟨pair.1, hname, List.mem_singleton_self pair⟩
  have hunsorted : q.sort = none := hsort fun other hother => by
    rw [List.mem_singleton.mp hother]
    exact hnames .sort
  have hunpaged : q.window = none := hwindow fun other hother hname => by
    rw [List.mem_singleton.mp hother] at hname
    exact (List.mem_append.mp hname).elim (hnames .page) (hnames .pageSize)
  refine ⟨q, x.store.admitted q.filter, hbuild, ?_, x.store.admitted_increasing _, fun id e => ?_⟩
  · have hselect : x.store.select q = (x.store.admitted q.filter).map Prod.snd := by
      rw [Store.select_of_unpaged hunpaged, hunsorted]
    rw [findAll, hselect]
    cases x.store.faults.findAll <;> rfl
  · rw [Store.mem_admitted_iff, hadmits]
    simp [hfree]

/-- **What a store lists for a field and a text**: the entities whose field equals the value that the
text stands for. -/
theorem Session.findAll_equal {schema : Schema} (limits : PageLimits) (x : Session E)
    {field text : String} {type : FieldType} {operand : Value} (hname : isFieldName field.toList)
    (hfree : Parameter.isReserved field = false) (htype : schema.type? field = some type)
    (hread : Value.read type text = some operand) :
    ∃ q entries, Query.build schema limits [(field, text)] = .ok q ∧
      (x.findAll q).1 = x.store.faults.findAll.elim (.ok (entries.map Prod.snd)) .error ∧
      (entries : List (Int × E)).Pairwise (fun a b => a.1 < b.1) ∧
      ∀ id e, (id, e) ∈ entries ↔ x.store.get? id = some e ∧
        ∃ actual, Entity.field e field = some actual ∧ actual.equals operand := by
  have hstands : Query.StandsAs schema (field, text) ⟨field, .eq, operand⟩ :=
    ⟨.bare hname, type, htype, rfl, hread⟩
  obtain ⟨q, entries, hbuild, hfound, hincreasing, hentries⟩ :=
    findAll_single limits x hfree hstands
  refine ⟨q, entries, hbuild, hfound, hincreasing, fun id e => (hentries id e).trans ?_⟩
  refine and_congr_right fun _ => (Query.holds_iff_of_spells (.bare hname) htype _).trans ?_
  constructor
  · rintro ⟨actual, hactual, operand', hread', hequal⟩
    obtain rfl : operand = operand' := Option.some.inj (hread.symm.trans hread')
    exact ⟨actual, hactual, hequal⟩
  · rintro ⟨actual, hactual, hequal⟩
    exact ⟨actual, hactual, operand, hread, hequal⟩

end ResourceApi
