import ResourceApi.Catalog.Item
import ResourceApi.Proofs.Query.Building

/-!
# Which pairs build a query

Pairs build a query if each of them makes sense by itself, and those that name one parameter agree.
A pair that names no parameter makes sense if it stands for a comparison; then the filter of the
query has that comparison, once for every such pair. A pair that names a parameter makes sense if
its value is one that the parameter takes. There is one exception: without a field to sort by, a
direction is not looked at.

## Main definitions

- `Query.StandsAs` — a pair stands for a comparison of values
- `Parameter.Given`, `Parameter.IsRead`, `Parameter.Takes` — a parameter is given a value, the value
  is looked at, and the value is one that the parameter takes
- `Query.Acceptable` — pairs that make sense

## Main results

- `Query.build_accepts` — the pairs that build a query, and the comparisons that they become
- `Query.read_parameters_taken` — what is known of the parameters of a query that builds
-/

namespace ResourceApi

open ResourceApi.Filter

/-! ## Comparisons -/

/-- The text of an operand stands for a value. A membership test has a list of values, one for each
text between commas, and none of these texts is empty. -/
def Filter.Operator.Coerces (type : FieldType) (raw : String) (operand : Value) : Operator → Prop
  | .among => ∃ items, operand = .list items ∧ List.Forall₂
      (fun item value => item ≠ [] ∧ Value.read type (String.ofList item) = some value)
      (Text.pieces ',' raw.toList) items
  | _ => Value.read type raw = some operand

namespace Query

/-- A pair stands for a comparison: its key spells the operator on the field, the field is declared
with a type that the operator applies to, and its value stands for the operand. -/
def StandsAs (schema : Schema) (pair : String × String) (c : Comparison Value) : Prop :=
  Spells pair.1 c.field c.operator ∧ ∃ type, schema.type? c.field = some type ∧
    c.operator.appliesTo type ∧ c.operator.Coerces type pair.2 c.operand

theorem readOperand_eq_ok_iff {field raw : String} {type : FieldType} {op : Operator}
    {operand : Value} :
    readOperand field type op raw = .ok operand ↔ op.Coerces type raw operand := by
  cases op with
  | among =>
    have hitems (items : List Value) : readItems field type raw = .ok items ↔ List.Forall₂
        (fun item value => item ≠ [] ∧ Value.read type (String.ofList item) = some value)
        (Text.pieces ',' raw.toList) items := by
      rw [readItems, mapM_eq_ok_iff]
      simp only [readItem_eq_ok_iff]
    rw [readOperand, map_eq_ok_iff]
    constructor
    · rintro ⟨items, hread, rfl⟩
      exact ⟨items, rfl, (hitems items).mp hread⟩
    · rintro ⟨items, rfl, hread⟩
      exact ⟨items, (hitems items).mpr hread, rfl⟩
  | _ => exact readValue_eq_ok_iff

theorem readLeaf_eq_ok_iff {schema : Schema} {pair : String × String} {r : Comparison Value} :
    (readPair pair.1 pair.2 >>= resolve schema) = .ok r ↔ StandsAs schema pair r := by
  rw [bind_eq_ok_iff]
  simp only [readPair_eq_ok_iff, resolve_eq_ok_iff, readOperand_eq_ok_iff]
  constructor
  · rintro ⟨c, ⟨hspells, hraw⟩, type, operand, htype, happlies, hoperand, rfl⟩
    exact ⟨hspells, type, htype, happlies, hraw ▸ hoperand⟩
  · rintro ⟨hspells, type, htype, happlies, hoperand⟩
    exact ⟨⟨r.field, r.operator, pair.2⟩, ⟨hspells, rfl⟩, type, r.operand, htype, happlies,
      hoperand, rfl⟩

/-- A filter is read from pairs that stand for comparisons. -/
theorem exists_readFilter_iff {schema : Schema} {pairs : List (String × String)} :
    (∃ filter, readFilter schema pairs = .ok filter) ↔
      ∀ pair ∈ pairs, ∃ c, StandsAs schema pair c := by
  simp only [← readLeaf_eq_ok_iff, ← exists_mapM_ok_iff, mapM_bind_eq_ok_iff]
  constructor
  · rintro ⟨filter, hfilter⟩
    obtain ⟨leaves, resolved, hleaves, hresolved, -⟩ := readFilter_eq_ok_iff.mp hfilter
    obtain ⟨unordered, hunordered, -⟩ := mapM_ok_of_perm (arranged_perm leaves) hresolved
    exact ⟨unordered, leaves, hleaves, hunordered⟩
  · rintro ⟨unordered, leaves, hleaves, hunordered⟩
    obtain ⟨resolved, hresolved, -⟩ := mapM_ok_of_perm (arranged_perm leaves).symm hunordered
    exact ⟨_, readFilter_eq_ok_iff.mpr ⟨leaves, resolved, hleaves, hresolved, rfl⟩⟩

/-- A filter has one comparison for each pair, in an order of its own. -/
theorem leaves_of_readFilter {schema : Schema} {pairs : List (String × String)}
    {filter : Option (Expression Value)} (h : readFilter schema pairs = .ok filter) :
    ∃ leaves resolved, filter = Expression.joined resolved ∧ leaves.Perm resolved ∧
      List.Forall₂ (StandsAs schema) pairs leaves := by
  obtain ⟨leaves, resolved, hleaves, hresolved, rfl⟩ := readFilter_eq_ok_iff.mp h
  obtain ⟨unordered, hunordered, hperm⟩ := mapM_ok_of_perm (arranged_perm leaves) hresolved
  refine ⟨unordered, resolved, rfl, hperm.symm, ?_⟩
  have hread := mapM_eq_ok_iff.mp (mapM_bind_eq_ok_iff.mpr ⟨leaves, hleaves, hunordered⟩)
  exact hread.imp fun _ _ => readLeaf_eq_ok_iff.mp

theorem comparisons_of_joined {q : Query} {resolved : List (Comparison Value)}
    (h : q.filter = Expression.joined resolved) : q.comparisons = resolved := by
  rw [comparisons, h]
  cases resolved with
  | nil => rfl
  | cons leaf leaves => exact Expression.leaves_conjunction (leaf :: leaves)

theorem joined_eq_none_iff {resolved : List (Comparison Value)} :
    Expression.joined resolved = none ↔ resolved = [] := by
  cases resolved <;> simp [Expression.joined]

end Query

/-! ## Parameters -/

/-- A positive number of 32 bits, in digits, perhaps behind a plus sign. -/
def IsPositive (raw : String) : Prop :=
  ∃ n, Number.WrittenFor raw.toList n ∧ n ≤ Number.maxUInt32 ∧ 0 < n

/-- `asc` or `desc`, in any case. -/
def IsDirection (raw : String) : Prop :=
  Text.sameLetters raw.toList "asc".toList ∨ Text.sameLetters raw.toList "desc".toList

namespace Parameter

/-- A parameter is given a value, under one of the keys that name it. -/
def Given (pairs : List (String × String)) (p : Parameter) (value : String) : Prop :=
  ∃ key ∈ p.names, (key, value) ∈ pairs

/-- The values of a parameter are looked at. A direction is only if there is a field to sort by. -/
def IsRead (pairs : List (String × String)) (p : Parameter) : Prop :=
  p = .order → ∃ field, Parameter.sort.Given pairs field

/-- The values that a parameter takes. -/
def Takes (schema : Schema) (value : String) : Parameter → Prop
  | .page => IsPositive value
  | .pageSize => IsPositive value
  | .sort => schema.contains value
  | .order => IsDirection value

end Parameter

theorem Direction.exists_read_iff {raw : String} :
    (∃ direction, Direction.read raw = .ok direction) ↔ IsDirection raw := by
  have hasc : Text.lower "asc".toList = ['a', 's', 'c'] := rfl
  have hdesc : Text.lower "desc".toList = ['d', 'e', 's', 'c'] := rfl
  simp only [IsDirection, Text.sameLetters, hasc, hdesc, Direction.read]
  split
  · simp [*]
  · split <;> simp [*]

namespace Parameters

variable {given : Parameters} {pairs : List (String × String)}

/-- Values agree on something if they are all the same. -/
theorem exists_agree_iff {given : List String} :
    (∃ now, Agree given now) ↔ ∀ v ∈ given, ∀ w ∈ given, v = w := by
  constructor
  · rintro ⟨now, -, hall⟩ v hv w hw
    exact Option.some.inj ((hall v hv).symm.trans (hall w hw))
  · intro h
    refine ⟨given.head?, rfl, fun value hvalue => ?_⟩
    cases given with
    | nil => exact absurd hvalue List.not_mem_nil
    | cons first given => exact congrArg some (h first (List.mem_cons_self ..) value hvalue)

/-- What is gathered for a parameter is the value it is given. -/
theorem given_iff_of_gather {filters : List (String × String)}
    (h : gather none pairs = .ok (given, filters)) {p : Parameter} {value : String} :
    given p = some value ↔ p.Given pairs value := by
  obtain ⟨hhead, hall⟩ := (gather_none_eq_ok_iff.mp h).2 p
  rw [Parameter.Given, ← mem_values_iff]
  constructor
  · intro hvalue
    exact List.mem_of_head? (hhead ▸ hvalue)
  · exact hall value

/-- Pairs are gathered if the values of each parameter are all the same. -/
theorem exists_gather_iff :
    (∃ parts, gather none pairs = .ok parts) ↔
      ∀ p v w, Parameter.Given pairs p v → Parameter.Given pairs p w → v = w := by
  simp only [Parameter.Given, ← mem_values_iff]
  constructor
  · rintro ⟨⟨after, filters⟩, h⟩ p v w hv hw
    exact exists_agree_iff.mp ⟨_, (gather_none_eq_ok_iff.mp h).2 p⟩ v hv w hw
  · intro h
    have hagree (p : Parameter) : ∃ now, Agree (values p pairs) now :=
      exists_agree_iff.mpr fun v hv w hw => h p v w hv hw
    choose after hafter using hagree
    exact ⟨(after, _), gather_none_eq_ok_iff.mpr ⟨rfl, hafter⟩⟩

end Parameters

namespace Query

variable {schema : Schema} {limits : PageLimits} {given : Parameters}
  {pairs : List (String × String)}

theorem exists_readPositive_iff {p : Parameter} :
    (∃ n, readPositive p given = .ok n) ↔ ∀ raw, given p = some raw → IsPositive raw := by
  constructor
  · rintro ⟨asked, h⟩ raw hraw
    cases asked with
    | none =>
      rw [readPositive_eq_none_iff.mp h] at hraw
      cases hraw
    | some n =>
      obtain ⟨value, hvalue, hwritten, hpos, hle⟩ := readPositive_eq_some_iff.mp h
      obtain rfl : value = raw := Option.some.inj (hvalue.symm.trans hraw)
      exact ⟨n, hwritten, hle, hpos⟩
  · intro h
    cases hgiven : given p with
    | none => exact ⟨none, readPositive_eq_none_iff.mpr hgiven⟩
    | some raw =>
      obtain ⟨n, hwritten, hle, hpos⟩ := h raw hgiven
      exact ⟨some n, readPositive_eq_some_iff.mpr ⟨raw, hgiven, hwritten, hpos, hle⟩⟩

theorem exists_readWindow_iff :
    (∃ window, readWindow limits given = .ok window) ↔
      (∃ n, readPositive .page given = .ok n) ∧ ∃ n, readPositive .pageSize given = .ok n := by
  simp only [readWindow_eq_ok_iff]
  constructor
  · rintro ⟨window, number, size, hnumber, hsize, -⟩
    exact ⟨⟨number, hnumber⟩, size, hsize⟩
  · rintro ⟨⟨number, hnumber⟩, size, hsize⟩
    exact ⟨_, number, size, hnumber, hsize, rfl⟩

theorem exists_readSort_iff :
    (∃ sort, readSort schema given = .ok sort) ↔ ∀ field, given .sort = some field →
      schema.contains field ∧ ∀ raw, given .order = some raw → IsDirection raw := by
  rw [readSort]
  cases given .sort with
  | none => simp
  | some field =>
    by_cases hfield : schema.contains field
    · cases given .order with
      | none => simp [hfield]
      | some raw =>
        simp only [hfield, if_true, Option.some.injEq, forall_eq', true_and,
          ← Direction.exists_read_iff]
        cases Direction.read raw <;> simp
    · simp [hfield]

/-- The parameters are read if those that are looked at have values that they take. -/
theorem exists_read_iff (limits : PageLimits) :
    ((∃ sort, readSort schema given = .ok sort) ∧ ∃ window, readWindow limits given = .ok window) ↔
      ∀ p value, given p = some value → (p = .order → ∃ field, given .sort = some field) →
        p.Takes schema value := by
  rw [exists_readSort_iff, exists_readWindow_iff, exists_readPositive_iff, exists_readPositive_iff]
  constructor
  · rintro ⟨hsort, hpage, hsize⟩ p value hvalue hread
    cases p with
    | page => exact hpage value hvalue
    | pageSize => exact hsize value hvalue
    | sort => exact (hsort value hvalue).1
    | order =>
      obtain ⟨field, hfield⟩ := hread rfl
      exact (hsort field hfield).2 value hvalue
  · intro h
    refine ⟨fun field hfield => ⟨h .sort field hfield nofun, fun raw hraw => ?_⟩,
      fun raw hraw => h .page raw hraw nofun, fun raw hraw => h .pageSize raw hraw nofun⟩
    exact h .order raw hraw fun _ => ⟨field, hfield⟩

/-! ## Building -/

/-- Pairs that make sense. -/
structure Acceptable (schema : Schema) (pairs : List (String × String)) : Prop where
  /-- A pair that names no parameter stands for a comparison. -/
  filters : ∀ pair ∈ pairs, Parameter.isReserved pair.1 = false → ∃ c, StandsAs schema pair c
  /-- A parameter is given one value only, whatever its keys. -/
  agree : ∀ p v w, Parameter.Given pairs p v → Parameter.Given pairs p w → v = w
  /-- A value that is looked at is one that its parameter takes. -/
  taken : ∀ p value, Parameter.Given pairs p value → p.IsRead pairs → p.Takes schema value

/-- **Pairs build a query exactly if they make sense.** -/
theorem exists_build_iff :
    (∃ q, build schema limits pairs = .ok q) ↔ Acceptable schema pairs := by
  constructor
  · rintro ⟨q, hbuild⟩
    obtain ⟨given, filters, hgather, hfilter, hsort, hwindow⟩ := build_eq_ok_iff.mp hbuild
    obtain rfl := Parameters.filters_of_gather hgather
    have htaken := (exists_read_iff limits).mp ⟨⟨_, hsort⟩, _, hwindow⟩
    refine ⟨fun pair hpair hfree => ?_, Parameters.exists_gather_iff.mp ⟨_, hgather⟩, ?_⟩
    · exact exists_readFilter_iff.mp ⟨_, hfilter⟩ pair
        (List.mem_filter.mpr ⟨hpair, by rw [hfree]; rfl⟩)
    · simpa only [Parameters.given_iff_of_gather hgather, Parameter.IsRead] using htaken
  · intro h
    obtain ⟨⟨given, filters⟩, hgather⟩ := Parameters.exists_gather_iff.mpr h.agree
    obtain rfl := Parameters.filters_of_gather hgather
    have hfilters : ∀ pair ∈ pairs.filter fun pair => !Parameter.isReserved pair.1,
        ∃ c, StandsAs schema pair c := fun pair hpair => by
      obtain ⟨hpair, hfree⟩ := List.mem_filter.mp hpair
      exact h.filters pair hpair (by simpa using hfree)
    have htaken := h.taken
    simp only [Parameter.IsRead, ← Parameters.given_iff_of_gather hgather] at htaken
    obtain ⟨filter, hfilter⟩ := exists_readFilter_iff.mpr hfilters
    obtain ⟨⟨sort, hsort⟩, window, hwindow⟩ := (exists_read_iff limits).mpr htaken
    exact ⟨⟨filter, sort, window⟩, build_eq_ok_iff.mpr
      ⟨given, _, hgather, hfilter, hsort, hwindow⟩⟩

/-- **What builds a query**: pairs that make sense, and nothing else. The filter of the query has
one comparison for every pair that names no parameter; without such a pair there is no filter. -/
theorem build_accepts (schema : Schema) (limits : PageLimits) (pairs : List (String × String)) :
    ((∃ q, build schema limits pairs = .ok q) ↔ Acceptable schema pairs) ∧
      ∀ q, build schema limits pairs = .ok q →
        (∃ leaves, List.Forall₂ (StandsAs schema)
            (pairs.filter fun pair => !Parameter.isReserved pair.1) leaves ∧
          leaves.Perm q.comparisons) ∧
        (q.filter = none ↔ ∀ pair ∈ pairs, Parameter.isReserved pair.1 = true) := by
  refine ⟨exists_build_iff, fun q hbuild => ?_⟩
  obtain ⟨given, filters, hgather, hfilter, -, -⟩ := build_eq_ok_iff.mp hbuild
  obtain rfl := Parameters.filters_of_gather hgather
  obtain ⟨leaves, resolved, hjoined, hperm, hstand⟩ := leaves_of_readFilter hfilter
  refine ⟨⟨leaves, hstand, comparisons_of_joined hjoined ▸ hperm⟩, ?_⟩
  -- As many comparisons as pairs: none of the one if none of the other.
  have hlength := hstand.length_eq.trans hperm.length_eq
  rw [hjoined, joined_eq_none_iff, ← List.length_eq_zero_iff, ← hlength, List.length_eq_zero_iff,
    List.filter_eq_nil_iff]
  simp only [Bool.not_eq_true', Bool.not_eq_false]

/-! ## Directions that are not looked at -/

/-- The pairs, with another direction wherever one is given. -/
def redirect (word : String) (pairs : List (String × String)) : List (String × String) :=
  pairs.map fun pair => (pair.1, if pair.1 ∈ Parameter.order.names then word else pair.2)

variable {word : String}

theorem filters_redirect :
    ((redirect word pairs).filter fun pair => !Parameter.isReserved pair.1) =
      pairs.filter fun pair => !Parameter.isReserved pair.1 := by
  rw [redirect, List.filter_map]
  refine (List.map_congr_left fun pair hpair => ?_).trans (List.map_id _)
  have hname : pair.1 ∉ Parameter.order.names := fun hname => by
    have hreserved := Parameter.isReserved_of_ofKey? (Parameter.ofKey?_eq_some_iff.mpr hname)
    simp [List.mem_filter, hreserved] at hpair
  exact Prod.ext rfl (if_neg hname)

theorem values_redirect_of_ne {p : Parameter} (hp : p ≠ .order) :
    Parameters.values p (redirect word pairs) = Parameters.values p pairs := by
  rw [Parameters.values, redirect, List.filter_map, List.map_map]
  refine List.map_congr_left fun pair hpair => if_neg fun hname => hp ?_
  have hkey : Parameter.ofKey? pair.1 = some p := by simpa using (List.mem_filter.mp hpair).2
  exact Option.some.inj (hkey.symm.trans (Parameter.ofKey?_eq_some_iff.mpr hname))

theorem exists_agree_redirect (word : String) (pairs : List (String × String)) :
    ∃ now, Parameters.Agree (Parameters.values .order (redirect word pairs)) now := by
  have hword (v : String) (hv : v ∈ Parameters.values .order (redirect word pairs)) : v = word := by
    obtain ⟨key, hkey, hmem⟩ := Parameters.mem_values_iff.mp hv
    obtain ⟨pair, -, heq⟩ := List.mem_map.mp hmem
    obtain ⟨rfl, rfl⟩ := Prod.mk.inj heq
    exact if_pos hkey
  exact Parameters.exists_agree_iff.mpr fun v hv w hw => (hword v hv).trans (hword w hw).symm

/-- Without a field to sort by, any direction builds the same query. -/
theorem build_redirect {q : Query} (hbuild : build schema limits pairs = .ok q)
    (hsort : ∀ field, ¬ Parameter.sort.Given pairs field) (word : String) :
    build schema limits (redirect word pairs) = .ok q := by
  obtain ⟨given, filters, hgather, hfilter, hsorted, hwindow⟩ := build_eq_ok_iff.mp hbuild
  have hnone : given .sort = none :=
    Option.eq_none_iff_forall_ne_some.mpr fun field hfield =>
      hsort field ((Parameters.given_iff_of_gather hgather).mp hfield)
  obtain ⟨rfl, hagree⟩ := Parameters.gather_none_eq_ok_iff.mp hgather
  obtain ⟨now, hnow⟩ := exists_agree_redirect word pairs
  let after : Parameters := fun p => if p = .order then now else given p
  have hgather' : Parameters.gather Parameters.none (redirect word pairs) =
      .ok (after, pairs.filter fun pair => !Parameter.isReserved pair.1) := by
    refine Parameters.gather_none_eq_ok_iff.mpr ⟨filters_redirect.symm, fun p => ?_⟩
    by_cases hp : p = .order
    · subst hp
      exact hnow
    · simpa only [values_redirect_of_ne hp, after, if_neg hp] using hagree p
  refine build_eq_ok_iff.mpr ⟨after, _, hgather', hfilter, ?_, hwindow⟩
  have hafter : after .sort = none := hnone
  rw [readSort, hafter, sort_of_not_given hnone hsorted]

/-- **What is known of the parameters of a query that builds**: a value that is looked at is one
that its parameter takes. A direction without a field to sort by is not looked at: any text in its
place builds the same query. -/
theorem read_parameters_taken {q : Query} (h : build schema limits pairs = .ok q) :
    (∀ p value, Parameter.Given pairs p value → p.IsRead pairs → p.Takes schema value) ∧
      ((∀ field, ¬ Parameter.sort.Given pairs field) →
        ∀ word, build schema limits (redirect word pairs) = .ok q) :=
  ⟨(exists_build_iff.mp ⟨q, h⟩).taken, build_redirect h⟩

theorem read_parameters_taken_on_second_page :
    let q : Query := ⟨none, none, some ⟨20, 20⟩⟩
    build Item.schema .usual [("order", "sideways"), ("page", "2")] = .ok q ∧ IsPositive "2" ∧
      ∀ word, build Item.schema .usual [("order", word), ("page", "2")] = .ok q := by
  intro q
  have hbuild : build Item.schema .usual [("order", "sideways"), ("page", "2")] = .ok q := rfl
  obtain ⟨htaken, hany⟩ := read_parameters_taken hbuild
  have hgiven : Parameter.page.Given [("order", "sideways"), ("page", "2")] "2" :=
    ⟨"page", by decide, by decide⟩
  have hsort (field : String) :
      ¬ Parameter.sort.Given [("order", "sideways"), ("page", "2")] field := by
    simp [Parameter.Given, Parameter.names]
  have hread : Parameter.page.IsRead [("order", "sideways"), ("page", "2")] := by
    intro hpage
    cases hpage
  exact ⟨hbuild, htaken .page "2" hgiven hread, hany hsort⟩

/-- A value that its parameter does not take may be in a query that builds. -/
theorem stray_direction_builds :
    (∃ q, build Item.schema .usual [("order", "sideways")] = .ok q) ∧
      Parameter.order.Given [("order", "sideways")] "sideways" ∧
        ¬ Parameter.order.Takes Item.schema "sideways" := by
  refine ⟨⟨⟨none, none, none⟩, rfl⟩, ⟨"order", by decide, by decide⟩, fun htakes => ?_⟩
  obtain ⟨direction, hread⟩ := Direction.exists_read_iff.mpr htakes
  have hsideways : Direction.read "sideways" = .error "sideways" := rfl
  rw [hsideways] at hread
  cases hread

end Query

end ResourceApi
