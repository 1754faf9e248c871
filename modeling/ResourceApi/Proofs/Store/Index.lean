import ResourceApi.Proofs.Store.WriteSets

/-!
# The entities a store begins with

A store is made from a list of entities, in any order and with any identifiers. Each of them stands
under its own identifier, the last one if several have the same, and the counter is positive and
behind all of them.

## Main definitions

- `Store.Ahead` — the counter is positive and behind every committed entity

## Main results

- `Store.Ahead.applyList`, `Store.nextId_applyList_le` — staged changes are applied, and the counter
  stays ahead and goes no further than it has to
- `Store.get?_ofList` — where the entities of a list are found
- `Store.ahead_ofList`, `Store.nextId_ofList_le` — the counter of a store made from a list
-/

namespace ResourceApi.Store

variable {α E : Type}

/-- The counter of identifiers is positive and behind every committed entity. -/
structure Ahead (s : Store E) : Prop where
  positive : 0 < s.nextId
  behind : ∀ id, (s.get? id).isSome → id < s.nextId

/-- The identifier that the counter stands at is free. -/
theorem Ahead.free {s : Store E} (h : s.Ahead) : s.get? s.nextId = none := by
  refine Option.not_isSome_iff_eq_none.mp fun hsome => ?_
  have hlt := h.behind s.nextId hsome
  omega

theorem Ahead.of_le {s s' : Store E} (h : s.Ahead) (hentities : s'.entities = s.entities)
    (hle : s.nextId ≤ s'.nextId) : s'.Ahead := by
  obtain ⟨hpositive, hbehind⟩ := h
  refine ⟨by omega, fun id hsome => ?_⟩
  rw [get?, hentities] at hsome
  have hlt := hbehind id hsome
  omega

/-! ## The counter behind write sets -/

theorem nextId_le_applyStaged (s : Store E) (id : Int) (change : Staged E) :
    s.nextId ≤ (s.applyStaged id change).nextId := by
  cases change with
  | insert e | update e =>
    dsimp only [applyStaged]
    omega
  | delete => exact Int.le_refl _

theorem lt_nextId_applyStaged (s : Store E) {id : Int} {change : Staged E}
    (h : change.value?.isSome) : id < (s.applyStaged id change).nextId := by
  cases change with
  | insert e | update e =>
    dsimp only [applyStaged]
    omega
  | delete => cases h

theorem Ahead.applyStaged {s : Store E} (h : s.Ahead) (id : Int) (change : Staged E) :
    (s.applyStaged id change).Ahead := by
  obtain ⟨hpositive, hbehind⟩ := h
  have hle := s.nextId_le_applyStaged id change
  refine ⟨by omega, fun other hsome => ?_⟩
  rw [get?_applyStaged] at hsome
  by_cases ho : other = id
  · rw [if_pos ho] at hsome
    exact ho ▸ s.lt_nextId_applyStaged hsome
  · rw [if_neg ho] at hsome
    have hlt := hbehind other hsome
    omega

theorem nextId_le_applyList (s : Store E) (changes : List (Int × Staged E)) :
    s.nextId ≤ (s.applyList changes).nextId := by
  induction changes generalizing s with
  | nil => exact Int.le_refl _
  | cons entry changes ih => exact Int.le_trans (s.nextId_le_applyStaged entry.1 entry.2) (ih _)

theorem nextId_applyStaged_le {s : Store E} {id bound : Int} (hs : s.nextId ≤ bound)
    (hid : id < bound) (change : Staged E) : (s.applyStaged id change).nextId ≤ bound := by
  cases change with
  | insert e | update e =>
    dsimp only [applyStaged]
    omega
  | delete => exact hs

/-- The counter goes no further than behind the identifiers of what is applied. -/
theorem nextId_applyList_le {s : Store E} {bound : Int} (hs : s.nextId ≤ bound)
    {changes : List (Int × Staged E)} (h : ∀ entry ∈ changes, entry.1 < bound) :
    (s.applyList changes).nextId ≤ bound := by
  induction changes generalizing s with
  | nil => exact hs
  | cons entry changes ih =>
    obtain ⟨hfirst, hrest⟩ := List.forall_mem_cons.mp h
    exact ih (nextId_applyStaged_le hs hfirst entry.2) hrest

theorem Ahead.applyList {s : Store E} (h : s.Ahead) (changes : List (Int × Staged E)) :
    (s.applyList changes).Ahead := by
  induction changes generalizing s with
  | nil => exact h
  | cons entry changes ih => exact ih (h.applyStaged entry.1 entry.2)

/-! ## A store made from a list -/

/-- A running maximum is below a bound exactly when all that went into it is. -/
theorem foldl_max_le (f : α → Int) (items : List α) (start bound : Int) :
    items.foldl (fun greatest a => max greatest (f a)) start ≤ bound ↔
      start ≤ bound ∧ ∀ a ∈ items, f a ≤ bound := by
  induction items generalizing start with
  | nil => simp
  | cons a items ih =>
    rw [List.foldl_cons, ih, List.forall_mem_cons, Int.max_le, and_assoc]

variable [Entity E]

theorem getElem?_foldl_insert (entities : List E) (held : Std.ExtTreeMap Int E) (id : Int) {e : E}
    (h : (entities.foldl (fun held e => held.insert (Entity.id e) e) held)[id]? = some e) :
    held[id]? = some e ∨ e ∈ entities ∧ Entity.id e = id := by
  induction entities generalizing held with
  | nil => exact .inl h
  | cons first entities ih =>
    rcases ih _ h with hheld | ⟨hmem, hid⟩
    · rw [Std.ExtTreeMap.getElem?_insert] at hheld
      split at hheld
      · next heq =>
        cases hheld
        exact .inr ⟨List.mem_cons_self .., Std.compare_eq_iff_eq.mp heq⟩
      · exact .inl hheld
    · exact .inr ⟨List.mem_cons_of_mem _ hmem, hid⟩

theorem isSome_foldl_insert {entities : List E} (held : Std.ExtTreeMap Int E) {id : Int}
    (h : held[id]?.isSome ∨ ∃ e ∈ entities, Entity.id e = id) :
    (entities.foldl (fun held e => held.insert (Entity.id e) e) held)[id]?.isSome := by
  induction entities generalizing held with
  | nil =>
    rcases h with h | ⟨e, he, -⟩
    · exact h
    · exact absurd he List.not_mem_nil
  | cons first entities ih =>
    refine ih _ ?_
    rw [Std.ExtTreeMap.getElem?_insert]
    -- The first entity stands there from here on, whether or not later ones take its place.
    by_cases hfirst : Entity.id first = id
    · exact .inl (by rw [if_pos (Std.compare_eq_iff_eq.mpr hfirst)]; rfl)
    · rw [if_neg fun hc => hfirst (Std.compare_eq_iff_eq.mp hc)]
      rcases h with h | ⟨e, he, hid⟩
      · exact .inl h
      · rcases List.mem_cons.mp he with rfl | he
        · exact absurd hid hfirst
        · exact .inr ⟨e, he, hid⟩

theorem getElem?_index {entities : List E} {id : Int} {e : E}
    (h : (index entities)[id]? = some e) : e ∈ entities ∧ Entity.id e = id := by
  rcases getElem?_foldl_insert entities ∅ id h with hempty | hfound
  · simp at hempty
  · exact hfound

theorem isSome_index {entities : List E} {e : E} (h : e ∈ entities) :
    (index entities)[Entity.id e]?.isSome :=
  isSome_foldl_insert ∅ (.inr ⟨e, h, rfl⟩)

/-- What a store holds at first are entities of its list, under their own identifiers. -/
theorem get?_ofList {entities : List E} {id : Int} {e : E}
    (h : (ofList entities).get? id = some e) : e ∈ entities ∧ Entity.id e = id :=
  getElem?_index h

theorem ahead_ofList (entities : List E) : (ofList entities).Ahead := by
  obtain ⟨hstart, hkeys⟩ :=
    (foldl_max_le Prod.fst (index entities).toList 0 _).mp (Int.le_refl _)
  constructor
  · dsimp only [ofList]
    omega
  · intro id hsome
    obtain ⟨e, he⟩ := Option.isSome_iff_exists.mp hsome
    have hle := hkeys (id, e) (Std.ExtTreeMap.mem_toList_iff_getElem?_eq_some.mpr he)
    dsimp only [ofList]
    omega

/-- The counter starts no further than behind the identifiers of the list. -/
theorem nextId_ofList_le {entities : List E} {bound : Int} (hpositive : 0 < bound)
    (h : ∀ e ∈ entities, Entity.id e < bound) : (ofList entities).nextId ≤ bound := by
  have hgreatest :
      (index entities).toList.foldl (fun greatest entry => max greatest entry.1) 0 ≤ bound - 1 := by
    refine (foldl_max_le Prod.fst _ 0 _).mpr ⟨by omega, fun entry hentry => ?_⟩
    obtain ⟨hmem, hid⟩ := getElem?_index (Std.ExtTreeMap.mem_toList_iff_getElem?_eq_some.mp hentry)
    have hlt := h entry.2 hmem
    omega
  dsimp only [ofList]
  omega

end ResourceApi.Store
