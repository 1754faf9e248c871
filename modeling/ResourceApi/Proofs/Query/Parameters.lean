import ResourceApi.Proofs.Reading
import ResourceApi.Query.Parameter

/-!
# What the parameters of a query string come to

Gathering walks over the pairs with the parameters read so far. What it comes to can be said without
the walk: each parameter has the first value its keys were given, and gathering succeeds if no key
was given a different one.

## Main definitions

- `Parameter.names` — the keys that name a parameter
- `Parameters.values` — all values that pairs give to a parameter
- `Parameters.Agree` — values agree on what a parameter is

## Main results

- `Parameters.gather_eq_ok_iff` — pairs are gathered exactly if the values of each parameter agree
- `Parameters.filters_of_gather` — the pairs that filter are those that name no parameter
- `Parameters.gather_of_perm` — pairs in another order are gathered into the same parameters
-/

namespace ResourceApi

namespace Parameter

def names : Parameter → List String
  | .page => ["page"]
  | .pageSize => ["per_page", "limit"]
  | .sort => ["sort"]
  | .order => ["order"]

theorem ofKey?_eq_some_iff {key : String} {p : Parameter} : ofKey? key = some p ↔ key ∈ p.names := by
  cases p <;> simp only [ofKey?, names] <;> grind

theorem ofKey?_eq_none_iff {key : String} : ofKey? key = none ↔ isReserved key = false := by
  simp only [ofKey?, isReserved, keys]
  grind

theorem isReserved_of_ofKey? {key : String} {p : Parameter} (h : ofKey? key = some p) :
    isReserved key = true := by
  cases hreserved : isReserved key with
  | true => rfl
  | false =>
    rw [ofKey?_eq_none_iff.mpr hreserved] at h
    cases h

end Parameter

namespace Parameters

/-- The values given to a parameter, under any of its keys, in the order of the pairs. -/
def values (p : Parameter) (pairs : List (String × String)) : List String :=
  (pairs.filter fun pair => Parameter.ofKey? pair.1 == some p).map Prod.snd

/-- The values agree on what a parameter is: each of them is it, and without values
there is none. -/
def Agree (given : List String) (now : Option String) : Prop :=
  now = given.head? ∧ ∀ value ∈ given, now = some value

theorem values_cons_of_some {p : Parameter} {pair : String × String}
    {pairs : List (String × String)} (h : Parameter.ofKey? pair.1 = some p) :
    values p (pair :: pairs) = pair.2 :: values p pairs := by
  rw [values, List.filter_cons_of_pos (by rw [h]; exact beq_self_eq_true _), List.map_cons]
  rfl

theorem values_cons_of_ne {p : Parameter} {pair : String × String}
    {pairs : List (String × String)} (h : Parameter.ofKey? pair.1 ≠ some p) :
    values p (pair :: pairs) = values p pairs := by
  rw [values, List.filter_cons_of_neg (by simpa using h)]
  rfl

theorem values_append (p : Parameter) (pairs more : List (String × String)) :
    values p (pairs ++ more) = values p pairs ++ values p more := by
  rw [values, List.filter_append, List.map_append]
  rfl

theorem mem_values_iff {p : Parameter} {pairs : List (String × String)} {value : String} :
    value ∈ values p pairs ↔ ∃ key ∈ p.names, (key, value) ∈ pairs := by
  simp only [values, List.mem_map, List.mem_filter, beq_iff_eq, Parameter.ofKey?_eq_some_iff]
  constructor
  · rintro ⟨⟨key, _⟩, ⟨hpair, hkey⟩, rfl⟩
    exact ⟨key, hkey, hpair⟩
  · rintro ⟨key, hkey, hpair⟩
    exact ⟨(key, value), ⟨hpair, hkey⟩, rfl⟩

theorem agree_toList_iff {earlier now : Option String} :
    Agree earlier.toList now ↔ now = earlier := by
  cases earlier with
  | none => simp [Agree]
  | some value => simp [Agree]

/-- A list with a member agrees on nothing but that member. -/
theorem agree_iff_of_mem {given : List String} {now : Option String} {value : String}
    (h : value ∈ given) : Agree given now ↔ now = some value ∧ ∀ v ∈ given, v = value := by
  constructor
  · rintro ⟨-, hall⟩
    have hnow : now = some value := hall value h
    refine ⟨hnow, fun v hv => ?_⟩
    exact Option.some.inj ((hall v hv).symm.trans hnow)
  · rintro ⟨rfl, hall⟩
    refine ⟨?_, fun v hv => congrArg some (hall v hv).symm⟩
    cases given with
    | nil => exact absurd h List.not_mem_nil
    | cons first given => exact congrArg some (hall first (List.mem_cons_self ..)).symm

/-- Saying a value again changes nothing; saying another one is a contradiction. -/
theorem agree_cons_cons_iff {earlier value : String} {given : List String} {now : Option String} :
    Agree (earlier :: value :: given) now ↔ earlier = value ∧ Agree (earlier :: given) now := by
  rw [agree_iff_of_mem (List.mem_cons_self ..), agree_iff_of_mem (List.mem_cons_self ..)]
  simp only [List.forall_mem_cons, true_and]
  constructor
  · rintro ⟨hnow, hvalue, hgiven⟩
    exact ⟨hvalue.symm, hnow, hgiven⟩
  · rintro ⟨hvalue, hnow, hgiven⟩
    exact ⟨hnow, hvalue.symm, hgiven⟩

theorem give_same (given : Parameters) (p : Parameter) (value : String) :
    given.give p value p = some value := if_pos rfl

theorem give_of_ne (given : Parameters) {p q : Parameter} (h : q ≠ p) (value : String) :
    given.give p value q = given q := if_neg h

/-- Pairs are gathered exactly if, for each parameter, what is known of it and the values given to
it agree. -/
theorem gather_eq_ok_iff {given after : Parameters} {pairs filters : List (String × String)} :
    gather given pairs = .ok (after, filters) ↔
      filters = (pairs.filter fun pair => !Parameter.isReserved pair.1) ∧
        ∀ p, Agree ((given p).toList ++ values p pairs) (after p) := by
  induction pairs generalizing given filters with
  | nil =>
    have hafter : (∀ p, Agree ((given p).toList ++ values p []) (after p)) ↔ given = after := by
      simp only [values, List.filter_nil, List.map_nil, List.append_nil, agree_toList_iff]
      exact ⟨fun h => funext fun p => (h p).symm, fun h p => (congrFun h p).symm⟩
    rw [hafter, gather, Except.ok.injEq, Prod.mk.injEq, List.filter_nil]
    exact ⟨fun ⟨h, h'⟩ => ⟨h'.symm, h⟩, fun ⟨h, h'⟩ => ⟨h', h.symm⟩⟩
  | cons pair pairs ih =>
    obtain ⟨key, value⟩ := pair
    cases hkey : Parameter.ofKey? key with
    | none =>
      -- The pair filters.
      have hfree : Parameter.isReserved key = false := Parameter.ofKey?_eq_none_iff.mp hkey
      have hvalues (p : Parameter) : values p ((key, value) :: pairs) = values p pairs :=
        values_cons_of_ne (by rw [hkey]; simp)
      simp only [gather, hkey, hvalues, List.filter_cons, hfree, Bool.not_false, if_true]
      constructor
      · intro h
        obtain ⟨parts, hrest, h⟩ := bind_eq_ok_iff.mp h
        obtain ⟨rfl, rfl⟩ := Prod.mk.inj (Except.ok.inj h)
        obtain ⟨hfilters, hagree⟩ := ih.mp hrest
        exact ⟨congrArg _ hfilters, hagree⟩
      · rintro ⟨rfl, hagree⟩
        exact bind_eq_ok_iff.mpr ⟨(after, _), ih.mpr ⟨rfl, hagree⟩, rfl⟩
    | some p =>
      -- The pair names a parameter, and is weighed against what is known of it.
      have hreserved : Parameter.isReserved key = true := Parameter.isReserved_of_ofKey? hkey
      have hsame : values p ((key, value) :: pairs) = value :: values p pairs :=
        values_cons_of_some hkey
      have hother (q : Parameter) (hq : q ≠ p) :
          values q ((key, value) :: pairs) = values q pairs := by
        refine values_cons_of_ne ?_
        rw [hkey]
        exact fun heq => hq (Option.some.inj heq).symm
      simp only [gather, hkey, List.filter_cons, hreserved, Bool.not_true, Bool.false_eq_true,
        if_false]
      cases hgiven : given p with
      | some earlier =>
        dsimp only
        by_cases heq : earlier = value
        · rw [if_pos heq, ih]
          refine and_congr_right fun _ => forall_congr' fun q => ?_
          by_cases hq : q = p
          · subst hq
            rw [hsame, hgiven, Option.toList_some, List.singleton_append, List.singleton_append,
              agree_cons_cons_iff, and_iff_right heq]
          · rw [hother q hq]
        · rw [if_neg heq]
          constructor
          · intro h
            cases h
          · rintro ⟨-, hagree⟩
            have hp := hagree p
            rw [hsame, hgiven, Option.toList_some, List.singleton_append, agree_cons_cons_iff] at hp
            exact absurd hp.1 heq
      | none =>
        dsimp only
        rw [ih]
        refine and_congr_right fun _ => forall_congr' fun q => ?_
        by_cases hq : q = p
        · subst hq
          rw [give_same, hsame, hgiven, Option.toList_some, Option.toList_none,
            List.singleton_append, List.nil_append]
        · rw [give_of_ne given hq, hother q hq]

/-- The pairs that filter are those that name no parameter. -/
theorem filters_of_gather {given after : Parameters} {pairs filters : List (String × String)}
    (h : gather given pairs = .ok (after, filters)) :
    filters = pairs.filter fun pair => !Parameter.isReserved pair.1 :=
  (gather_eq_ok_iff.mp h).1

/-- A parameter that no pair names is as it was. -/
theorem given_of_gather {given after : Parameters} {pairs filters : List (String × String)}
    (h : gather given pairs = .ok (after, filters)) {p : Parameter}
    (hp : ∀ pair ∈ pairs, pair.1 ∉ p.names) : after p = given p := by
  have hnone : values p pairs = [] := by
    refine List.eq_nil_iff_forall_not_mem.mpr fun value hvalue => ?_
    obtain ⟨key, hkey, hpair⟩ := mem_values_iff.mp hvalue
    exact hp (key, value) hpair hkey
  have hagree := (gather_eq_ok_iff.mp h).2 p
  rwa [hnone, List.append_nil, agree_toList_iff] at hagree

/-- Which of the values comes first does not matter, for they are all the same. -/
theorem Agree.perm {given given' : List String} {now : Option String} (h : Agree given now)
    (hperm : given.Perm given') : Agree given' now := by
  cases given with
  | nil => exact List.nil_perm.mp hperm ▸ h
  | cons value given =>
    have hmem : value ∈ value :: given := List.mem_cons_self ..
    obtain ⟨hnow, hall⟩ := (agree_iff_of_mem hmem).mp h
    refine (agree_iff_of_mem (hperm.mem_iff.mp hmem)).mpr ⟨hnow, fun v hv => ?_⟩
    exact hall v (hperm.mem_iff.mpr hv)

theorem gather_none_eq_ok_iff {after : Parameters} {pairs filters : List (String × String)} :
    gather none pairs = .ok (after, filters) ↔
      filters = (pairs.filter fun pair => !Parameter.isReserved pair.1) ∧
        ∀ p, Agree (values p pairs) (after p) := by
  rw [gather_eq_ok_iff]
  rfl

/-- Pairs in another order give the same parameters, and the same filters in another order. -/
theorem gather_of_perm {after : Parameters} {pairs pairs' filters : List (String × String)}
    (hperm : pairs.Perm pairs') (h : gather none pairs = .ok (after, filters)) :
    ∃ filters', gather none pairs' = .ok (after, filters') ∧ filters.Perm filters' := by
  obtain ⟨rfl, hagree⟩ := gather_none_eq_ok_iff.mp h
  refine ⟨_, gather_none_eq_ok_iff.mpr ⟨rfl, fun p => ?_⟩, hperm.filter _⟩
  exact (hagree p).perm ((hperm.filter _).map Prod.snd)

end Parameters

end ResourceApi
