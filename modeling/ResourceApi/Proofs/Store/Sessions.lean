import ResourceApi.Proofs.Store.WriteSets
import ResourceApi.Store.Answerer

/-!
# What the calls of a session leave alone

Only a commit that succeeds touches the committed entities, and only the four calls that open and
finish a transaction touch the tally. Everything else moves planted faults, the counter of
identifiers and the write set.

## Main definitions

- `Store.Steady` — a view of the store on which faults and counter do not bear
-/

namespace ResourceApi

variable {E α β : Type}

/-- A view of the store on which neither the planted faults nor the counter of identifiers bear. -/
structure Store.Steady (view : Store E → β) : Prop where
  faults : ∀ (s : Store E) (faults : Faults), view (s.withFaults faults) = view s
  nextId : ∀ (s : Store E) (n : Int), view { s with nextId := n } = view s

theorem Store.steady_entities : Store.Steady (Store.entities (E := E)) :=
  ⟨fun _ _ => rfl, fun _ _ => rfl⟩

theorem Store.steady_tally : Store.Steady (Store.tally (E := E)) :=
  ⟨fun _ _ => rfl, fun _ _ => rfl⟩

namespace Session

/-! ## Staging -/

@[simp] theorem store_stageInsert (x : Session E) (id : Int) (e : E) :
    (x.stageInsert id e).store = x.store := by
  unfold stageInsert
  split <;> rfl

@[simp] theorem store_stageUpdate (x : Session E) (id : Int) (e : E) :
    (x.stageUpdate id e).store = x.store := by
  unfold stageUpdate
  split <;> rfl

@[simp] theorem store_stageDelete (x : Session E) (id : Int) :
    (x.stageDelete id).store = x.store := by
  unfold stageDelete
  split <;> rfl

@[simp] theorem store_insertAt (x : Session E) (id : Int) (e : E) :
    (x.insertAt id e).2.store = x.store := by
  unfold insertAt
  split
  · rfl
  · exact store_stageInsert x id e

/-! ## Calls inside a transaction and look-ups -/

section Steady

variable {view : Store E → β} (h : Store.Steady view)
include h

theorem unlessFaulty_keeps {change : Session E → Except Failure α × Session E}
    (hc : ∀ x, view (change x).2.store = view x.store) (x : Session E) (step : Failure.Step) :
    view (x.unlessFaulty step change).2.store = view x.store := by
  unfold unlessFaulty
  split
  · exact h.faults _ _
  · exact hc x

theorem delete_keeps (x : Session E) (id : Int) : view (x.delete id).2.store = view x.store := by
  refine unlessFaulty_keeps h ?_ x .delete
  intro x
  dsimp only
  split
  · exact h.faults _ _
  · split
    · exact congrArg view (store_stageDelete x id)
    · rfl

theorem findById_keeps (x : Session E) (id : Int) :
    view (x.findById id).2.store = view x.store := by
  unfold findById
  split
  · exact h.faults _ _
  · rfl

theorem contains_keeps (x : Session E) (id : Int) :
    view (x.contains id).2.store = view x.store :=
  findById_keeps h x id

variable [Entity E]

theorem findAll_keeps (x : Session E) (q : Query) : view (x.findAll q).2.store = view x.store := by
  unfold findAll
  split
  · exact h.faults _ _
  · rfl

theorem insert_keeps (x : Session E) (e : E) : view (x.insert e).2.store = view x.store := by
  refine unlessFaulty_keeps h ?_ x .insert
  intro x
  -- An entity without an identifier draws one, which moves the counter before anything is staged.
  split
  · rw [store_insertAt]
  · rw [store_insertAt]
    exact h.nextId _ _

theorem update_keeps (x : Session E) (e : E) : view (x.update e).2.store = view x.store := by
  refine unlessFaulty_keeps h ?_ x .update
  intro x
  split
  · exact congrArg view (store_stageUpdate x _ e)
  · rfl

end Steady

/-! ## The counter of identifiers -/

section Counter

/-- Where a planted fault strikes, the counter stays where it is. -/
theorem unlessFaulty_nextId {x : Session E} {step : Failure.Step} {P : Int → Prop}
    {change : Session E → Except Failure α × Session E} (hstays : P x.store.nextId)
    (hmoves : P (change x).2.store.nextId) : P (x.unlessFaulty step change).2.store.nextId := by
  unfold unlessFaulty
  split
  · exact hstays
  · exact hmoves

theorem delete_nextId (x : Session E) (id : Int) :
    (x.delete id).2.store.nextId = x.store.nextId := by
  refine unlessFaulty_nextId (P := (· = x.store.nextId)) rfl ?_
  split
  · rfl
  · split
    · rw [store_stageDelete]
    · rfl

variable [Entity E]

theorem update_nextId (x : Session E) (e : E) :
    (x.update e).2.store.nextId = x.store.nextId := by
  refine unlessFaulty_nextId (P := (· = x.store.nextId)) rfl ?_
  split
  · rw [store_stageUpdate]
  · rfl

/-- An insert moves the counter by at most one. -/
theorem insert_nextId (x : Session E) (e : E) :
    (x.insert e).2.store.nextId = x.store.nextId ∨
      (x.insert e).2.store.nextId = x.store.nextId + 1 := by
  refine unlessFaulty_nextId (P := fun n => n = x.store.nextId ∨ n = x.store.nextId + 1)
    (.inl rfl) ?_
  split
  · exact .inl (by rw [store_insertAt])
  · exact .inr (by rw [store_insertAt]; rfl)

theorem insert_nextId_le (x : Session E) (e : E) :
    x.store.nextId ≤ (x.insert e).2.store.nextId := by
  rcases x.insert_nextId e with h | h <;> omega

end Counter

/-! ## Opening and finishing a transaction -/

theorem begin_of_faultless {x : Session E} (h : x.store.faults.begin = none) :
    x.begin = (.ok (),
      ⟨x.store.withTally { x.store.tally with begun := x.store.tally.begun + 1 }, ∅⟩) := by
  simp only [begin, h]

theorem begin_entities (x : Session E) : x.begin.2.store.entities = x.store.entities := by
  unfold begin
  split <;> rfl

theorem commit_of_fault {x : Session E} {message : String}
    (h : x.store.faults.commit = some message) :
    x.commit = (.error (.transactionFailed .commit message),
      ⟨x.store.withFaults { x.store.faults with commit := none }, x.writes⟩) := by
  simp only [commit, h]

theorem commit_of_conflict {x : Session E} {id : Int} (hf : x.store.faults.commit = none)
    (hc : x.store.conflict? x.writes = some id) :
    x.commit = (.error (.transactionFailed .commit (conflictMessage id)), x) := by
  simp only [commit, hf, hc]

theorem commit_of_agreement {x : Session E} (hf : x.store.faults.commit = none)
    (hc : x.store.conflict? x.writes = none) :
    x.commit = (.ok (), ⟨(x.store.applyAll x.writes).withTally
      { x.store.tally with committed := x.store.tally.committed + 1 }, ∅⟩) := by
  simp only [commit, hf, hc, Store.tally_applyAll]

/-- A commit that fails leaves the counter alone. -/
theorem nextId_of_commit_error {x y : Session E} {failure : Failure}
    (h : x.commit = (.error failure, y)) : y.store.nextId = x.store.nextId := by
  unfold commit at h
  cases hfault : x.store.faults.commit with
  | some message =>
    rw [hfault] at h
    rw [← (Prod.mk.inj h).2]
    rfl
  | none =>
    rw [hfault] at h
    cases hconflict : x.store.conflict? x.writes with
    | some id =>
      rw [hconflict] at h
      rw [← (Prod.mk.inj h).2]
    | none =>
      rw [hconflict] at h
      cases (Prod.mk.inj h).1

/-- **Commit, read backwards**: it fails for a planted fault or for a conflict and changes neither
the committed entities nor the write set, or it applies the whole write set. -/
theorem commit_cases (x : Session E) :
    (∃ failure y, x.commit = (.error failure, y) ∧
        (x.store.faults.commit.isSome ∨ x.store.Contradicted x.writes) ∧
        y.store.entities = x.store.entities ∧ y.store.tally = x.store.tally ∧
        y.writes = x.writes) ∨
      (x.store.faults.commit = none ∧ ¬ x.store.Contradicted x.writes ∧
        x.commit = (.ok (), ⟨(x.store.applyAll x.writes).withTally
          { x.store.tally with committed := x.store.tally.committed + 1 }, ∅⟩)) := by
  -- The planted fault is looked at before the write set is.
  cases hf : x.store.faults.commit with
  | some message =>
    exact .inl ⟨_, _, commit_of_fault hf, .inl rfl, rfl, rfl, rfl⟩
  | none =>
    cases hc : x.store.conflict? x.writes with
    | some id =>
      have hcon := (Store.conflict?_isSome_iff _ _).mp (Option.isSome_of_eq_some hc)
      exact .inl ⟨_, x, commit_of_conflict hf hc, .inr hcon, rfl, rfl, rfl⟩
    | none =>
      refine .inr ⟨rfl, ?_, commit_of_agreement hf hc⟩
      intro hcon
      have hsome := (Store.conflict?_isSome_iff _ _).mpr hcon
      simp [hc] at hsome

end Session

end ResourceApi
