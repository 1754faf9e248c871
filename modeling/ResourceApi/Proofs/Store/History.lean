import ResourceApi.Catalog.Item
import ResourceApi.Proofs.Store.Sessions
import ResourceApi.Store.World

/-!
# The committed history of a store

Any number of transactions on one store, their calls in any order. The committed entities are at
every moment the initial ones under the write sets that commits have published, one layer on the
other, and everything that can be read is read from them. What a transaction has staged before it is
rolled back is gone for good.

## Main definitions

- `Step.Empties`, `Step.StagesIn` — the steps that empty a write set and those that add to it
- `World.published?` — the write set that a step publishes
- `World.publications` — the write sets that a run publishes
- `World.CommitBlocked` — what makes a commit fail
- `World.ReadsAs` — a world that shows what a given store holds

## Main results

- `World.step_writes_of_empties`, `World.step_writes_of_silent`, `World.run_writes_of_silent` — what
  becomes of a write set
- `World.step_get?`, `World.run_get?` — what becomes of the committed entities
- `World.committed_eq_overlay_of_publications` — the committed history
-/

namespace ResourceApi

/-- A step behind which a transaction has nothing staged, by its answer: it has been rolled back, or
it has been opened or committed and that went through. -/
def Step.Empties {τ E : Type} (tx : τ) : Step τ E → Answer E → Prop
  | .rollback other, _ => other = tx
  | .begin other, answer | .commit other, answer => other = tx ∧ answer = .done
  | _, _ => False

/-- A call that may stage a change in a transaction. -/
def Step.StagesIn {τ E : Type} (tx : τ) : Step τ E → Prop
  | .insert other _ | .update other _ | .updatePartial other _ | .delete other _ => other = tx
  | _ => False

namespace World

variable {α τ E : Type} [DecidableEq τ]

theorem within_eq (w : World τ E) (tx : τ) (answer : α → Answer E)
    (call : Session E → Except Failure α × Session E) :
    w.within tx answer call =
      (Answer.ofResult answer (call (w.session tx)).1, w.resume tx (call (w.session tx)).2) := rfl

omit [DecidableEq τ] in
theorem outside_eq (w : World τ E) (answer : α → Answer E)
    (call : Session E → Except Failure α × Session E) :
    w.outside answer call =
      (Answer.ofResult answer (call ⟨w.store, ∅⟩).1, ⟨(call ⟨w.store, ∅⟩).2.store, w.writes⟩) := rfl

/-- Going on with an unchanged write set changes no write set. -/
theorem resume_writes_of_eq {w : World τ E} {tx : τ} {x : Session E}
    (h : x.writes = w.writes tx) : (w.resume tx x).writes = w.writes := by
  funext other
  by_cases ho : other = tx
  · subst ho
    simp only [resume, if_pos, h]
  · simp only [resume, if_neg ho]

theorem resume_writes_self (w : World τ E) (tx : τ) (x : Session E) :
    (w.resume tx x).writes tx = x.writes := by
  simp only [resume, if_pos]

theorem resume_writes_of_ne (w : World τ E) {tx other : τ} (h : tx ≠ other) (x : Session E) :
    (w.resume other x).writes tx = w.writes tx := by
  simp only [resume, if_neg h]

theorem resume_session_self (w : World τ E) (tx : τ) (x : Session E) :
    (w.resume tx x).session tx = x := by
  rw [session, resume_writes_self]
  rfl

/-- A commit of a transaction is blocked by a planted fault, by a staged insert whose identifier is
committed, and by a staged update whose identifier is not. -/
def CommitBlocked (w : World τ E) (tx : τ) : Prop :=
  w.store.faults.commit.isSome ∨
    ∃ id, ((∃ e, (w.writes tx)[id]? = some (.insert e)) ∧ (w.store.get? id).isSome) ∨
      ((∃ e, (w.writes tx)[id]? = some (.update e)) ∧ w.store.get? id = none)

omit [DecidableEq τ] in
theorem commitBlocked_iff (w : World τ E) (tx : τ) :
    w.CommitBlocked tx ↔
      w.store.faults.commit.isSome ∨ w.store.Contradicted (w.writes tx) := by
  refine or_congr Iff.rfl (exists_congr fun id => ?_)
  constructor
  · rintro (⟨⟨e, he⟩, hid⟩ | ⟨⟨e, he⟩, hid⟩)
    · exact ⟨_, he, (Store.contradicts_iff _ _ _).mpr (.inl ⟨⟨e, rfl⟩, hid⟩)⟩
    · exact ⟨_, he, (Store.contradicts_iff _ _ _).mpr (.inr ⟨⟨e, rfl⟩, hid⟩)⟩
  · rintro ⟨change, hw, hc⟩
    rcases (Store.contradicts_iff _ _ _).mp hc with ⟨⟨e, rfl⟩, hid⟩ | ⟨⟨e, rfl⟩, hid⟩
    · exact .inl ⟨⟨e, hw⟩, hid⟩
    · exact .inr ⟨⟨e, hw⟩, hid⟩

variable [Entity E]

/-! ## One step -/

/-- A commit either fails, being blocked, and leaves everything as it was, or publishes the write
set of its transaction. -/
theorem step_commit_cases (w : World τ E) (tx : τ) :
    (∃ failure, (w.step (.commit tx)).1 = .failed failure ∧ w.CommitBlocked tx ∧
        (w.step (.commit tx)).2.store.entities = w.store.entities ∧
        (w.step (.commit tx)).2.writes = w.writes) ∨
      ((w.step (.commit tx)).1 = .done ∧ ¬ w.CommitBlocked tx ∧
        (w.step (.commit tx)).2.store.get? = overlay w.store.get? (w.writes tx) ∧
        (w.step (.commit tx)).2.writes tx = ∅) := by
  rw [commitBlocked_iff]
  simp only [step, within_eq]
  rcases Session.commit_cases (w.session tx) with
    ⟨failure, y, hy, hblocked, hentities, -, hwrites⟩ | ⟨hfault, hfree, hy⟩
  · rw [hy]
    exact .inl ⟨failure, rfl, hblocked, hentities, resume_writes_of_eq hwrites⟩
  · rw [hy]
    refine .inr ⟨rfl, ?_, funext fun id => Store.get?_applyAll _ _ id, resume_writes_self _ _ _⟩
    rintro (hsome | hcon)
    · rw [show w.store.faults.commit = none from hfault] at hsome
      cases hsome
    · exact hfree hcon

/-- A begin either fails and leaves every write set as it was, or leaves its transaction with nothing
staged. -/
theorem step_begin_cases (w : World τ E) (tx : τ) :
    (∃ failure, (w.step (.begin tx)).1 = .failed failure ∧
        (w.step (.begin tx)).2.writes = w.writes) ∨
      ((w.step (.begin tx)).1 = .done ∧ (w.step (.begin tx)).2.writes tx = ∅) := by
  rw [step, within_eq, Session.begin]
  split
  · next failure _ => exact .inl ⟨failure, rfl, resume_writes_of_eq rfl⟩
  · exact .inr ⟨rfl, resume_writes_self _ _ _⟩

theorem step_keeps_entities (w : World τ E) {s : Step τ E} (hs : ∀ tx, s ≠ .commit tx) :
    (w.step s).2.store.entities = w.store.entities := by
  cases s with
  | commit tx => exact absurd rfl (hs tx)
  | begin tx => exact Session.begin_entities _
  | rollback tx => rfl
  | release tx => rfl
  | insert tx e => exact Session.insert_keeps Store.steady_entities _ e
  | update tx e => exact Session.update_keeps Store.steady_entities _ e
  | updatePartial tx e => exact Session.update_keeps Store.steady_entities _ e
  | delete tx id => exact Session.delete_keeps Store.steady_entities _ id
  | find id => exact Session.findById_keeps Store.steady_entities _ id
  | contains id => exact Session.contains_keeps Store.steady_entities _ id
  | list q => exact Session.findAll_keeps Store.steady_entities _ q
  | plant change => rfl

theorem run_cons (w : World τ E) (s : Step τ E) (steps : List (Step τ E)) :
    (w.run (s :: steps)).2 = ((w.step s).2.run steps).2 := rfl

theorem run_append (w : World τ E) (early late : List (Step τ E)) :
    (w.run (early ++ late)).2 = ((w.run early).2.run late).2 := by
  induction early generalizing w with
  | nil => rfl
  | cons s early ih => exact ih (w.step s).2

/-! ## What stays staged -/

theorem step_writes_of_empties {w : World τ E} {tx : τ} {s : Step τ E}
    (h : s.Empties tx (w.step s).1) : (w.step s).2.writes tx = ∅ := by
  cases s with
  | rollback other =>
    obtain rfl : other = tx := h
    exact resume_writes_self _ _ _
  | begin other =>
    obtain ⟨rfl, hdone⟩ := h
    rcases w.step_begin_cases other with ⟨failure, hfailed, -⟩ | ⟨-, hwrites⟩
    · rw [hdone] at hfailed
      cases hfailed
    · exact hwrites
  | commit other =>
    obtain ⟨rfl, hdone⟩ := h
    rcases w.step_commit_cases other with ⟨failure, hfailed, -⟩ | ⟨-, -, -, hwrites⟩
    · rw [hdone] at hfailed
      cases hfailed
    · exact hwrites
  | _ => exact h.elim

/-- Whatever neither stages anything in a transaction nor empties it leaves its write set alone. -/
theorem step_writes_of_silent {w : World τ E} {tx : τ} {s : Step τ E}
    (hempties : ¬s.Empties tx (w.step s).1) (hstages : ¬s.StagesIn tx) :
    (w.step s).2.writes tx = w.writes tx := by
  cases s with
  | insert other e | update other e | updatePartial other e | delete other id =>
    exact resume_writes_of_ne w (Ne.symm hstages) _
  | rollback other => exact resume_writes_of_ne w (Ne.symm hempties) _
  | begin other =>
    by_cases ho : other = tx
    · subst ho
      rcases w.step_begin_cases other with ⟨failure, -, hwrites⟩ | ⟨hdone, -⟩
      · rw [hwrites]
      · exact absurd ⟨rfl, hdone⟩ hempties
    · exact resume_writes_of_ne w (Ne.symm ho) _
  | commit other =>
    by_cases ho : other = tx
    · subst ho
      rcases w.step_commit_cases other with ⟨failure, -, -, -, hwrites⟩ | ⟨hdone, -⟩
      · rw [hwrites]
      · exact absurd ⟨rfl, hdone⟩ hempties
    · exact resume_writes_of_ne w (Ne.symm ho) _
  | release other =>
    have hwrites : (w.step (.release other)).2.writes = w.writes := resume_writes_of_eq rfl
    rw [hwrites]
  | find _ | contains _ | list _ | plant _ => rfl

/-- By induction on the run: what is staged comes of the transaction's own calls. -/
theorem run_writes_of_silent {w : World τ E} {tx : τ} (hwrites : w.writes tx = ∅)
    {steps : List (Step τ E)} (hsilent : ∀ s ∈ steps, ¬s.StagesIn tx) :
    (w.run steps).2.writes tx = ∅ := by
  induction steps generalizing w with
  | nil => exact hwrites
  | cons s steps ih =>
    obtain ⟨hfirst, hrest⟩ := List.forall_mem_cons.mp hsilent
    rw [run_cons]
    refine ih ?_ hrest
    by_cases hempties : s.Empties tx (w.step s).1
    · exact step_writes_of_empties hempties
    · rw [step_writes_of_silent hempties hfirst, hwrites]

/-! ## The layers of a run -/

/-- The write set that a step publishes: what its transaction has staged, if the step is a commit
and succeeds. -/
def published? (w : World τ E) : Step τ E → Option (WriteSet E)
  | .commit tx =>
    match (w.step (.commit tx)).1 with
    | .done => some (w.writes tx)
    | _ => none
  | _ => none

/-- The write sets that a run publishes, in the order of the commits. -/
def publications (w : World τ E) : List (Step τ E) → List (WriteSet E)
  | [] => []
  | s :: steps => (w.published? s).toList ++ (w.step s).2.publications steps

theorem published?_commit_of_done {w : World τ E} {tx : τ} (h : (w.step (.commit tx)).1 = .done) :
    w.published? (.commit tx) = some (w.writes tx) := by
  simp only [published?, h]

theorem published?_commit_of_failed {w : World τ E} {tx : τ} {failure : Failure}
    (h : (w.step (.commit tx)).1 = .failed failure) : w.published? (.commit tx) = none := by
  simp only [published?, h]

theorem published?_of_ne_commit (w : World τ E) {s : Step τ E} (hs : ∀ tx, s ≠ .commit tx) :
    w.published? s = none := by
  cases s with
  | commit tx => exact absurd rfl (hs tx)
  | _ => rfl

/-- A step lays what it publishes over the committed entities, and does nothing else to them. -/
theorem step_get? (w : World τ E) (s : Step τ E) :
    (w.step s).2.store.get? = (w.published? s).toList.foldl overlay w.store.get? := by
  by_cases hs : ∃ tx, s = .commit tx
  · obtain ⟨tx, rfl⟩ := hs
    rcases w.step_commit_cases tx with ⟨failure, hanswer, -, hentities, -⟩ | ⟨hanswer, -, hget, -⟩
    · rw [published?_commit_of_failed hanswer]
      funext id
      simp only [Store.get?, hentities, Option.toList, List.foldl_nil]
    · rw [published?_commit_of_done hanswer, hget]
      rfl
  -- Whatever else a step does to the store, it publishes nothing.
  · have hne : ∀ tx, s ≠ .commit tx := fun tx he => hs ⟨tx, he⟩
    rw [published?_of_ne_commit w hne]
    funext id
    simp only [Store.get?, step_keeps_entities w hne, Option.toList, List.foldl_nil]

/-- By induction on the run: each step adds its layer on top of those before it. -/
theorem run_get? (w : World τ E) (steps : List (Step τ E)) :
    (w.run steps).2.store.get? = (w.publications steps).foldl overlay w.store.get? := by
  induction steps generalizing w with
  | nil => rfl
  | cons s steps ih => rw [run_cons, ih, step_get?, publications, List.foldl_append]

/-! ## Reading -/

/-- Every read of a world shows what a given store holds, unless a fault is planted for it. -/
structure ReadsAs (w : World τ E) (s : Store E) : Prop where
  find : ∀ id, (w.step (.find id)).1 =
    match w.store.faults.findById with
    | some failure => .failed failure
    | none => .found (s.get? id)
  contains : ∀ id, (w.step (.contains id)).1 =
    match w.store.faults.findById with
    | some failure => .failed failure
    | none => .known (s.get? id).isSome
  list : ∀ q, (w.step (.list q)).1 =
    match w.store.faults.findAll with
    | some failure => .failed failure
    | none => .listed (s.select q)
  size : w.store.size = s.size

theorem readsAs_of_entities_eq {w : World τ E} {s : Store E} (h : w.store.entities = s.entities) :
    w.ReadsAs s where
  find id := by
    simp only [step, outside_eq, Session.findById, Store.get?, h]
    cases w.store.faults.findById <;> rfl
  contains id := by
    simp only [step, outside_eq, Session.contains, Session.findById, Store.get?, h]
    cases w.store.faults.findById <;> rfl
  list q := by
    simp only [step, outside_eq, Session.findAll, Store.select, Store.toList, h]
    cases w.store.faults.findAll <;> rfl
  size := by simp only [Store.size, h]

/-- A transaction that has nothing staged changes nothing by a commit. -/
theorem commit_of_unstaged {w : World τ E} {tx : τ} (hwrites : w.writes tx = ∅) (id : Int) :
    (w.step (.commit tx)).2.store.get? id = w.store.get? id := by
  rcases w.step_commit_cases tx with ⟨failure, -, -, hentities, -⟩ | ⟨-, -, hget, -⟩
  · rw [Store.get?, Store.get?, hentities]
  · rw [hget, hwrites]
    exact overlay_of_unstaged Std.ExtTreeMap.getElem?_empty

/-- **The committed history.** After any run of any number of transactions on a store:

* the committed entities are the initial ones under the published write sets, in commit order;
* every read shows the entities of that overlay, and so nothing that is only staged;
* a commit fails exactly when it is blocked, and then changes neither the committed entities nor a
  write set;
* no step but a commit changes the committed entities;
* a rollback leaves nothing staged in its transaction, and neither does a begin or a commit that
  goes through; any other step leaves a write set as it is, unless it is a change in that very
  transaction;
* so a transaction that has staged nothing since it was rolled back, opened or committed has nothing
  staged, and its commit shows nothing of what it had staged before. -/
theorem committed_eq_overlay_of_publications (w : World τ E) (steps : List (Step τ E)) :
    let v := (w.run steps).2
    let committed := (w.publications steps).foldl overlay w.store.get?
    (∀ id, v.store.get? id = committed id) ∧
      (∀ s : Store E, (∀ id, s.get? id = committed id) → v.ReadsAs s) ∧
      (∀ tx, (∃ failure, (v.step (.commit tx)).1 = .failed failure) ↔ v.CommitBlocked tx) ∧
      (∀ tx failure, (v.step (.commit tx)).1 = .failed failure →
        (v.step (.commit tx)).2.store.entities = v.store.entities ∧
          (v.step (.commit tx)).2.writes = v.writes) ∧
      (∀ s, (∀ tx, s ≠ .commit tx) → (v.step s).2.store.entities = v.store.entities) ∧
      (∀ tx s, (s.Empties tx (v.step s).1 → (v.step s).2.writes tx = ∅) ∧
        (¬s.Empties tx (v.step s).1 → ¬s.StagesIn tx → (v.step s).2.writes tx = v.writes tx)) ∧
      ∀ tx early s late, steps = early ++ s :: late →
        s.Empties tx ((w.run early).2.step s).1 → (∀ later ∈ late, ¬later.StagesIn tx) →
          v.writes tx = ∅ ∧ ∀ id, (v.step (.commit tx)).2.store.get? id = v.store.get? id := by
  intro v committed
  have hget : ∀ id, v.store.get? id = committed id := fun id => congrFun (w.run_get? steps) id
  refine ⟨hget, ?_, ?_, ?_, fun s hs => v.step_keeps_entities hs,
    fun tx s => ⟨step_writes_of_empties, step_writes_of_silent⟩, ?_⟩
  · -- Reads look at nothing but the committed entities.
    intro s hs
    exact readsAs_of_entities_eq (Store.entities_ext fun id => (hget id).trans (hs id).symm)
  · intro tx
    rcases v.step_commit_cases tx with ⟨failure, hanswer, hblocked, -⟩ | ⟨hanswer, hfree, -⟩
    · exact ⟨fun _ => hblocked, fun _ => ⟨failure, hanswer⟩⟩
    · refine ⟨?_, fun hblocked => absurd hblocked hfree⟩
      rintro ⟨failure, hfailed⟩
      rw [hanswer] at hfailed
      cases hfailed
  · intro tx failure hfailed
    rcases v.step_commit_cases tx with ⟨_, _, _, hentities, hwrites⟩ | ⟨hanswer, _, _⟩
    · exact ⟨hentities, hwrites⟩
    · rw [hanswer] at hfailed
      cases hfailed
  · rintro tx early s late rfl hempties hsilent
    have hwrites : v.writes tx = ∅ := by
      rw [show v = (((w.run early).2.step s).2.run late).2 from run_append w early (s :: late)]
      exact run_writes_of_silent (step_writes_of_empties hempties) hsilent
    exact ⟨hwrites, commit_of_unstaged hwrites⟩

/-- A removal is committed before an update of the same item, and an insert is rolled back: the
update's commit is blocked, that of the insert brings nothing, and what is read before and after
them is the stock without the removed item. -/
theorem committed_after_blocked_update :
    let w : World Nat Item := ofStore (.ofList [⟨1, "pen", 5, none⟩, ⟨2, "ink", 8, none⟩])
    let early : List (Step Nat Item) := [.begin 0, .begin 1, .begin 2,
      .insert 2 ⟨7, "cup", 3, none⟩]
    let late : List (Step Nat Item) := [.delete 0 1, .update 1 ⟨1, "nib", 5, none⟩,
      .update 1 ⟨2, "ink", 9, none⟩, .commit 0]
    let v := (w.run (early ++ .rollback 2 :: late)).2
    v.ReadsAs (.ofList [⟨2, "ink", 8, none⟩]) ∧ v.CommitBlocked 1 ∧
      (v.step (.commit 1)).2.store.entities = v.store.entities ∧
      (v.step (.commit 1)).2.writes = v.writes ∧
      ((w.run early).2.writes 2)[(7 : Int)]? = some (.insert ⟨7, "cup", 3, none⟩) ∧
      v.writes 2 = ∅ ∧ ∀ id, (v.step (.commit 2)).2.store.get? id = v.store.get? id := by
  intro w early late v
  obtain ⟨hget, hreads, hblocked, hfailed, -, -, hgone⟩ :=
    committed_eq_overlay_of_publications w (early ++ .rollback 2 :: late)
  have hentities : v.store.entities = (Store.ofList [(⟨2, "ink", 8, none⟩ : Item)]).entities :=
    Std.ExtTreeMap.toList_inj.mp (by decide)
  have hanswer : (v.step (.commit 1)).1 =
      .failed (.transactionFailed .commit "id 1 was changed by a concurrent transaction") := rfl
  have hsilent : ∀ later ∈ late, ¬later.StagesIn 2 := by simp [late, Step.StagesIn]
  refine ⟨hreads _ fun id => ?_, (hblocked 1).mp ⟨_, hanswer⟩, (hfailed 1 _ hanswer).1,
    (hfailed 1 _ hanswer).2, rfl, hgone 2 early _ late rfl rfl hsilent⟩
  rw [← hget id, Store.get?, Store.get?, ← hentities]

end World

end ResourceApi
