import ResourceApi.Proofs.Store.Sessions

/-!
# What a change stages

A change of a transaction comes to nothing and leaves the write set as it was, or something else is
staged under one identifier. What that is depends on what was staged there before.

## Main definitions

- `Staged.inserted`, `Staged.updated`, `Staged.removed?` — what is staged behind a change, from what
  was staged before it; `Staged.next?` says it of any change
- `Store.placed` — where an entity is inserted, and as what

## Main results

- `Session.insert_cases`, `Session.update_cases`, `Session.delete_cases` — one change
-/

namespace ResourceApi

variable {E : Type}

namespace Staged

/-- What is staged when an entity is inserted. -/
def inserted (before : Option (Staged E)) (e : E) : Staged E :=
  match before with
  | some .delete => .update e
  | _ => .insert e

/-- What is staged when an entity takes the place of another one. -/
def updated (before : Option (Staged E)) (e : E) : Staged E :=
  match before with
  | some (.insert _) => .insert e
  | _ => .update e

/-- What is staged when an entity is removed: nothing, if it was itself only staged. -/
def removed? (before : Option (Staged E)) : Option (Staged E) :=
  match before with
  | some (.insert _) => none
  | _ => some .delete

/-- What is staged behind a change that goes through. -/
def next? (before : Option (Staged E)) : Staged E → Option (Staged E)
  | .insert e => some (inserted before e)
  | .update e => some (updated before e)
  | .delete => removed? before

theorem value?_inserted (before : Option (Staged E)) (e : E) :
    (inserted before e).value? = some e := by
  unfold inserted
  split <;> rfl

theorem value?_updated (before : Option (Staged E)) (e : E) :
    (updated before e).value? = some e := by
  unfold updated
  split <;> rfl

theorem value?_of_removed? {before : Option (Staged E)} {change : Staged E}
    (h : removed? before = some change) : change.value? = none := by
  unfold removed? at h
  split at h
  · cases h
  · obtain rfl := Option.some.inj h
    rfl

end Staged

namespace Session

theorem getElem?_stage (x : Session E) (id : Int) (change : Staged E) (other : Int) :
    (x.stage id change).writes[other]? = if other = id then some change else x.writes[other]? := by
  simp only [stage, Std.ExtTreeMap.getElem?_insert, Std.compare_eq_iff_eq, @eq_comm _ other]

theorem getElem?_stageInsert (x : Session E) (id : Int) (e : E) (other : Int) :
    (x.stageInsert id e).writes[other]? =
      if other = id then some (.inserted x.writes[id]? e) else x.writes[other]? := by
  unfold stageInsert
  cases x.writes[id]? with
  | none => exact getElem?_stage x id (.insert e) other
  | some change => cases change <;> exact getElem?_stage x id _ other

theorem getElem?_stageUpdate (x : Session E) (id : Int) (e : E) (other : Int) :
    (x.stageUpdate id e).writes[other]? =
      if other = id then some (.updated x.writes[id]? e) else x.writes[other]? := by
  unfold stageUpdate
  cases x.writes[id]? with
  | none => exact getElem?_stage x id (.update e) other
  | some change => cases change <;> exact getElem?_stage x id _ other

theorem getElem?_stageDelete (x : Session E) (id : Int) (other : Int) :
    (x.stageDelete id).writes[other]? =
      if other = id then Staged.removed? x.writes[id]? else x.writes[other]? := by
  unfold stageDelete
  cases x.writes[id]? with
  | none => exact getElem?_stage x id .delete other
  | some change =>
    cases change with
    | insert e =>
      simp only [Staged.removed?, Std.ExtTreeMap.getElem?_erase, Std.compare_eq_iff_eq,
        @eq_comm _ other]
    | update e => exact getElem?_stage x id .delete other
    | delete => exact getElem?_stage x id .delete other

end Session

/-! ## One change -/

/-- Where an entity is inserted, and as what: under its own identifier, if it has one, and else
under the next one. -/
def Store.placed [Entity E] (s : Store E) (e : E) : Int × E :=
  if 0 < Entity.id e then (Entity.id e, e) else (s.nextId, Entity.withId e s.nextId)

namespace Session

/-- An identifier that a transaction sees as free is not staged, or staged to be removed. -/
theorem staged_of_not_visible {x : Session E} {id : Int} (h : x.visible id = false) :
    x.writes[id]? = none ∧ x.store.get? id = none ∨ x.writes[id]? = some .delete := by
  unfold visible at h
  cases hstaged : x.writes[id]? with
  | none =>
    rw [hstaged, Store.contains_entities] at h
    exact .inl ⟨rfl, Option.not_isSome_iff_eq_none.mp (Bool.eq_false_iff.mp h)⟩
  | some change =>
    rw [hstaged] at h
    cases change with
    | insert e => cases h
    | update e => cases h
    | delete => exact .inr rfl

/-- A removal comes to nothing, or what was there is removed. -/
theorem delete_cases (x : Session E) (id : Int) :
    ((x.delete id).1 ≠ .ok true ∧ (x.delete id).2.writes = x.writes) ∨
      ((x.delete id).1 = .ok true ∧ x.visible id = true ∧
        ∀ other : Int, (x.delete id).2.writes[other]? =
          if other = id then Staged.removed? x.writes[id]? else x.writes[other]?) := by
  unfold delete unlessFaulty
  cases x.store.faults.mutation with
  | some message => exact .inl ⟨nofun, rfl⟩
  | none =>
    dsimp only
    split
    · exact .inl ⟨nofun, rfl⟩
    · split
      · next hvisible => exact .inr ⟨rfl, hvisible, getElem?_stageDelete x id⟩
      · exact .inl ⟨nofun, rfl⟩

variable [Entity E]

/-- An insert fails, or the identifier was free and the entity is staged there. -/
theorem insert_cases (x : Session E) (e : E) :
    (∃ failure, (x.insert e).1 = .error failure ∧ (x.insert e).2.writes = x.writes) ∨
      ((x.insert e).1 = .ok (x.store.placed e).2 ∧ x.visible (x.store.placed e).1 = false ∧
        ∀ other : Int, (x.insert e).2.writes[other]? =
          if other = (x.store.placed e).1 then
            some (.inserted x.writes[(x.store.placed e).1]? (x.store.placed e).2)
          else x.writes[other]?) := by
  unfold insert unlessFaulty
  cases x.store.faults.mutation with
  | some message => exact .inl ⟨_, rfl, rfl⟩
  | none =>
    -- To draw an identifier changes nothing that is seen or staged.
    have hplaced (y : Session E) (hseen : ∀ id, y.visible id = x.visible id)
        (hwrites : y.writes = x.writes) (id : Int) (saved : E) :
        (∃ failure, (y.insertAt id saved).1 = .error failure ∧
            (y.insertAt id saved).2.writes = x.writes) ∨
          ((y.insertAt id saved).1 = .ok saved ∧ x.visible id = false ∧
            ∀ other : Int, (y.insertAt id saved).2.writes[other]? =
              if other = id then some (.inserted x.writes[id]? saved) else x.writes[other]?) := by
      unfold insertAt
      rw [hseen, ← hwrites]
      cases x.visible id with
      | true => exact .inl ⟨_, rfl, rfl⟩
      | false => exact .inr ⟨rfl, rfl, getElem?_stageInsert y id saved⟩
    dsimp only [Store.placed]
    split
    · exact hplaced x (fun _ => rfl) rfl _ _
    · exact hplaced x.drawId (fun _ => rfl) rfl _ _

/-- An update fails, or the identifier was taken and the entity is staged there. -/
theorem update_cases (x : Session E) (e : E) :
    (∃ failure, (x.update e).1 = .error failure ∧ (x.update e).2.writes = x.writes) ∨
      ((x.update e).1 = .ok e ∧ x.visible (Entity.id e) = true ∧
        ∀ other : Int, (x.update e).2.writes[other]? =
          if other = Entity.id e then some (.updated x.writes[Entity.id e]? e)
          else x.writes[other]?) := by
  unfold update unlessFaulty
  cases x.store.faults.mutation with
  | some message => exact .inl ⟨_, rfl, rfl⟩
  | none =>
    dsimp only
    split
    · next hvisible => exact .inr ⟨rfl, hvisible, getElem?_stageUpdate x _ e⟩
    · exact .inl ⟨_, rfl, rfl⟩

end Session

end ResourceApi
