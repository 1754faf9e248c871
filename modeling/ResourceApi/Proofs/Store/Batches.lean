import ResourceApi.Catalog.Item
import ResourceApi.Proofs.Store.Endings
import ResourceApi.Proofs.Store.Ledger
import ResourceApi.Store.World

/-!
# Batches are all or nothing

A batch of changes in a transaction of its own either leaves the committed entities as they were or
replaces them by what the same changes make of them when each takes place at once.

## Main results

- `Batch.course_run` — the course of a batch
- `World.batch_all_or_nothing` — a batch in a world of other transactions
-/

namespace ResourceApi

variable {E σ τ α β : Type}

/-! ## The course of a batch -/

namespace Script

variable (answer : Answerer E σ)

theorem course_call_map (c : Call E) (f : c.Result → β) (x : σ) :
    (do pure ((← Script.call c).map f) : Script E (Except Failure β)).course answer x =
      ⟨((answer c x).1.map f).outcome, (answer c x).2, [c]⟩ := by
  rw [course_bind, course_call]
  cases (answer c x).1 <;> rfl

end Script

namespace Batch

variable [Entity E]

theorem course_script (c : Change E) (x : Session E) :
    ∃ calls, c.script.course Session.answer x = ⟨(c.act x).1.outcome, (c.act x).2, calls⟩ := by
  cases c with
  | insert e => exact ⟨_, Script.course_call_map Session.answer (.insert e) Change.Effect.stored x⟩
  | update e => exact ⟨_, Script.course_call_map Session.answer (.update e) Change.Effect.stored x⟩
  | updatePartial e =>
    exact ⟨_, Script.course_call_map Session.answer (.updatePartial e) Change.Effect.stored x⟩
  | delete id => exact ⟨_, Script.course_call_map Session.answer (.delete id) Change.Effect.removed x⟩
  | fail failure => exact ⟨[], rfl⟩
  | crash message => exact ⟨[], rfl⟩

/-- The work of a batch is to make its changes in order. -/
theorem course_work (changes : List (Change E)) (x : Session E) :
    ∃ calls, (work changes).course Session.answer x =
      ⟨(inOrder Change.act changes x).1.outcome, (inOrder Change.act changes x).2, calls⟩ := by
  induction changes generalizing x with
  | nil => exact ⟨[], rfl⟩
  | cons c changes ih =>
    obtain ⟨calls, hscript⟩ := course_script c x
    rw [work, Script.course_bind, hscript, inOrder]
    obtain ⟨reply, y⟩ := c.act x
    cases reply with
    | failed failure => exact ⟨calls ++ [], rfl⟩
    | crashed message => exact ⟨calls, rfl⟩
    -- The other changes follow, and the effect of this one is put in front of theirs.
    | returned effect =>
      obtain ⟨rest, hrest⟩ := ih y
      change ∃ all, (Script.course Session.answer (work changes >>= _) y).after calls = _
      dsimp only
      rw [Script.course_bind, hrest]
      obtain ⟨replies, z⟩ := inOrder Change.act changes y
      cases replies with
      | returned effects => exact ⟨calls ++ (rest ++ []), rfl⟩
      | failed failure => exact ⟨calls ++ (rest ++ []), rfl⟩
      | crashed message => exact ⟨calls ++ rest, rfl⟩

/-- What the changes of a batch come to in the transaction that is opened for them. -/
def done (changes : List (Change E)) (x : Session E) :
    Reply (List (Change.Effect E)) × Session E :=
  inOrder Change.act changes x.begin.2

/-- The course of a batch whose transaction opens. -/
theorem course_run {x : Session E} (hbegin : x.store.faults.begin = none)
    (changes : List (Change E)) :
    ∃ calls, (run changes).course Session.answer x =
      ⟨(Scope.reply Session.answer (done changes x)).outcome,
        Service.endState Session.answer (done changes x), calls⟩ := by
  obtain ⟨calls, hwork⟩ := course_work changes x.begin.2
  obtain ⟨all, hscope⟩ := Scope.course_run_of Session.answer_calm hwork
  refine ⟨.begin :: all, ?_⟩
  rw [run, Script.course_bind, Script.course_call, Session.answer_begin_of_faultless hbegin]
  change (Script.course Session.answer (Scope.run (work changes)) x.begin.2).after [.begin] = _
  rw [hscope]
  rfl

/-! ## What a batch leaves alone -/

theorem act_keeps {view : Store E → β} (h : Store.Steady view) (c : Change E) (x : Session E) :
    view (c.act x).2.store = view x.store := by
  cases c with
  | insert e => exact Session.insert_keeps h x e
  | update e => exact Session.update_keeps h x e
  | updatePartial e => exact Session.update_keeps h x e
  | delete id => exact Session.delete_keeps h x id
  | fail failure => rfl
  | crash message => rfl

/-- Until its transaction ends, a batch shows nothing of itself. -/
theorem done_keeps {view : Store E → β} (h : Store.Steady view) (changes : List (Change E))
    (x : Session E) : view (done changes x).2.store = view x.begin.2.store := by
  refine inOrder_keeps (I := fun y : Session E => view y.store = view x.begin.2.store) ?_ changes
    rfl
  intro c y hy
  exact (act_keeps h c y).trans hy

/-- The counter of identifiers only goes forward. -/
theorem act_nextId_le (c : Change E) (x : Session E) :
    x.store.nextId ≤ (c.act x).2.store.nextId := by
  cases c with
  | insert e => exact x.insert_nextId_le e
  | update e => exact Int.le_of_eq (x.update_nextId e).symm
  | updatePartial e => exact Int.le_of_eq (x.update_nextId e).symm
  | delete id => exact Int.le_of_eq (x.delete_nextId id).symm
  | fail failure => exact Int.le_refl _
  | crash message => exact Int.le_refl _

theorem done_nextId_le (changes : List (Change E)) (x : Session E) :
    x.begin.2.store.nextId ≤ (done changes x).2.store.nextId := by
  refine inOrder_keeps (I := fun y : Session E => x.begin.2.store.nextId ≤ y.store.nextId) ?_
    changes (Int.le_refl _)
  intro c y hy
  exact Int.le_trans hy (act_nextId_le c y)

/-! ## What a batch comes to -/

/-- A change that a planted fault strikes does not return. -/
theorem act_of_fault {x : Session E} {message : String}
    (h : x.store.faults.mutation = some message) (c : Change E) (effect : Change.Effect E) :
    (c.act x).1 ≠ .returned effect := by
  cases c <;>
    simp [Change.act, Session.insert, Session.update, Session.delete, Session.unlessFaulty, h,
      Reply.ofExcept, Reply.map]

section Begin

variable {x : Session E} (hbegin : x.store.faults.begin = none)
include hbegin

omit [Entity E] in
theorem seen_begin : x.begin.2.seen = x.store.get? := by
  rw [Session.begin_of_faultless hbegin]
  funext id
  exact Session.seen_of_unstaged Std.ExtTreeMap.getElem?_empty

omit [Entity E] in
theorem sound_begin : x.begin.2.Sound := by
  rw [Session.begin_of_faultless hbegin]
  intro id change hstaged
  cases hstaged

omit [Entity E] in
/-- The transaction of a batch begins with the committed entities. -/
theorem mirrors_begin (hfault : x.store.faults.mutation = none) :
    x.begin.2.Mirrors x.begin.2.store x.store.ledger := by
  have hseen := seen_begin hbegin
  have hsound := sound_begin hbegin
  rw [Session.begin_of_faultless hbegin] at hseen hsound ⊢
  exact ⟨rfl, rfl, rfl, hfault, rfl, rfl, hseen, hsound⟩

/-- Changes that no planted fault strikes go as they do on a ledger. -/
theorem done_eq {changes : List (Change E)}
    (h : changes = [] ∨ x.store.faults.mutation = none) :
    (done changes x).1 = (inOrder Ledger.change changes x.store.ledger).1 ∧
      (done changes x).2.seen = (inOrder Ledger.change changes x.store.ledger).2.entity? ∧
      (done changes x).2.Sound ∧
      (done changes x).2.store.faults.commit = x.store.faults.commit := by
  have hcommit : x.begin.2.store.faults.commit = x.store.faults.commit := by
    rw [Session.begin_of_faultless hbegin]
    rfl
  rcases h with rfl | hfault
  · exact ⟨rfl, seen_begin hbegin, sound_begin hbegin, hcommit⟩
  · obtain ⟨hreply, hmirrors⟩ := inOrder_agree (fun c x l h => Session.Mirrors.act h c) changes
      (mirrors_begin hbegin hfault)
    exact ⟨hreply, hmirrors.seen, hmirrors.sound, hmirrors.commitFault.trans hcommit⟩

/-- Changes that a planted fault strikes come to nothing. -/
theorem done_of_fault {changes : List (Change E)} (hne : changes ≠ [])
    {message : String} (hfault : x.store.faults.mutation = some message)
    (effects : List (Change.Effect E)) : (done changes x).1 ≠ .returned effects := by
  cases changes with
  | nil => exact absurd rfl hne
  | cons c changes =>
    have hopen : x.begin.2.store.faults.mutation = some message := by
      rw [Session.begin_of_faultless hbegin]
      exact hfault
    have hact := act_of_fault hopen c
    rw [done, inOrder]
    generalize c.act x.begin.2 = result at hact
    obtain ⟨reply, y⟩ := result
    cases reply with
    | returned effect => exact absurd rfl (hact effect)
    | failed failure =>
      intro hreply
      cases hreply
    | crashed message =>
      intro hreply
      cases hreply

end Begin

/-- Nothing stands in the way of a batch: no planted fault strikes it, and its changes succeed when
each of them takes place at once. -/
def Feasible (s : Store E) (changes : List (Change E)) : Prop :=
  (changes = [] ∨ s.faults.mutation = none) ∧ s.faults.commit = none ∧
    ∃ effects, (inOrder Ledger.change changes s.ledger).1 = .returned effects

theorem outcome_eq_ok_iff {reply : Reply α} {value : α} :
    reply.outcome = .ok (.ok value) ↔ reply = .returned value := by
  cases reply <;> simp [Reply.outcome]

/-- **What a batch comes to**: if nothing stands in its way, what its changes make of the committed
entities is published and their effects are returned; otherwise it returns nothing, and everything
it has staged is discarded. -/
theorem run_cases {x : Session E} (hbegin : x.store.faults.begin = none)
    (changes : List (Change E)) :
    let ran := (run changes).run Session.answer x
    let direct := inOrder Ledger.change changes x.store.ledger
    (∃ effects, Feasible x.store changes ∧ direct.1 = .returned effects ∧
        ran.outcome = .ok (.ok effects) ∧ ran.state.store.get? = direct.2.entity? ∧
        (done changes x).2.Published ran.state) ∨
      (¬ Feasible x.store changes ∧ (∀ effects, ran.outcome ≠ .ok (.ok effects)) ∧
        (done changes x).2.Discarded ran.state) := by
  intro ran direct
  obtain ⟨calls, hcourse⟩ := course_run hbegin changes
  have houtcome : ran.outcome = (Scope.reply Session.answer (done changes x)).outcome :=
    congrArg Course.outcome hcourse
  have hstate : ran.state = Service.endState Session.answer (done changes x) :=
    congrArg Course.state hcourse
  rw [houtcome, hstate]
  rcases Session.end_cases (done changes x) with
    ⟨effects, hdone, hreply, hcommit, -, hpublished⟩ | ⟨hreply, hblocked, hdiscarded⟩
  · -- Changes that have all returned have not been struck, unless there were none.
    have hfree : changes = [] ∨ x.store.faults.mutation = none := by
      by_cases hne : changes = []
      · exact .inl hne
      · cases hfault : x.store.faults.mutation with
        | none => exact .inr rfl
        | some message => exact absurd hdone (done_of_fault hbegin hne hfault effects)
    obtain ⟨hdirect, hseen, -, hfault⟩ := done_eq hbegin hfree
    have hreturned : direct.1 = .returned effects := hdirect.symm.trans hdone
    refine .inl ⟨effects, ⟨hfree, hfault.symm.trans hcommit, effects, hreturned⟩, hreturned, ?_, ?_,
      hpublished⟩
    · rw [hreply]
      rfl
    · funext id
      rw [← congrFun hseen id, Store.get?, hpublished.entities]
      exact Store.get?_applyAll _ _ id
  · refine .inr ⟨?_, fun effects h => hreply effects (outcome_eq_ok_iff.mp h), hdiscarded⟩
    rintro ⟨hfree, hcommit, effects, hreturned⟩
    obtain ⟨hdirect, -, hsound, hfault⟩ := done_eq hbegin hfree
    rcases hblocked effects (hdirect.trans hreturned) with hsome | hcontra
    · rw [hfault, hcommit] at hsome
      cases hsome
    · exact hsound.not_contradicted hcontra

end Batch

namespace World

variable [DecidableEq τ] [Entity E]

/-- **A batch is all or nothing**, whatever is committed, whatever other transactions have staged
and whatever faults are planted:

* if it succeeds, the committed entities and the effects of its changes are those of making the same
  changes at once, one after the other;
* if it does not, the committed entities are as before, and of the bookkeeping of identifiers only
  the counter may have gone forward;
* either way one more transaction is begun and ended, and one more committed or rolled back;
* it succeeds exactly when no planted fault strikes it and its changes succeed when made at once;
* what other transactions have staged stays staged. -/
theorem batch_all_or_nothing (w : World τ E) (tx : τ) (changes : List (Change E))
    (hbegin : w.store.faults.begin = none) :
    let ran := (Batch.run changes).run Session.answer (w.session tx)
    let after := w.resume tx ran.state
    let direct := Batch.inOrder Ledger.change changes w.store.ledger
    let tally := w.store.tally
    (∀ effects, ran.outcome = .ok (.ok effects) →
        direct.1 = .returned effects ∧ (∀ id, after.store.get? id = direct.2.entity? id) ∧
          after.store.tally =
            ⟨tally.begun + 1, tally.committed + 1, tally.rolledBack, tally.ended + 1⟩) ∧
      ((∀ effects, ran.outcome ≠ .ok (.ok effects)) →
        after.store.entities = w.store.entities ∧ w.store.nextId ≤ after.store.nextId ∧
          after.store.tally =
            ⟨tally.begun + 1, tally.committed, tally.rolledBack + 1, tally.ended + 1⟩) ∧
      ((∃ effects, ran.outcome = .ok (.ok effects)) ↔ Batch.Feasible w.store changes) ∧
      (∀ other, after.writes other = if other = tx then ∅ else w.writes other) := by
  intro ran after direct tally
  have hopen := Session.begin_of_faultless (x := w.session tx) hbegin
  have hentities := Batch.done_keeps Store.steady_entities changes (w.session tx)
  have htally := Batch.done_keeps Store.steady_tally changes (w.session tx)
  have hnextId := Batch.done_nextId_le changes (w.session tx)
  rw [hopen] at hentities htally hnextId
  rcases Batch.run_cases (x := w.session tx) hbegin changes with
    ⟨effects, hfeasible, hdirect, houtcome, hget, hpublished⟩ | ⟨hblocked, houtcome, hdiscarded⟩
  · refine ⟨?_, fun hno => absurd houtcome (hno effects),
      iff_of_true ⟨effects, houtcome⟩ hfeasible, ?_⟩
    · intro others hothers
      obtain rfl : others = effects := by
        rw [houtcome] at hothers
        exact (Except.ok.inj (Except.ok.inj hothers)).symm
      refine ⟨hdirect, congrFun hget, hpublished.tally.trans ?_⟩
      rw [htally]
      rfl
    · intro other
      rw [← hpublished.writes]
      rfl
  · refine ⟨fun effects hok => absurd hok (houtcome effects), fun _ => ⟨?_, ?_, ?_⟩,
      iff_of_false (fun ⟨effects, hok⟩ => houtcome effects hok) hblocked, ?_⟩
    · exact hdiscarded.entities.trans hentities
    · exact hdiscarded.nextId ▸ hnextId
    · refine hdiscarded.tally.trans ?_
      rw [htally]
      rfl
    · intro other
      rw [← hdiscarded.writes]
      rfl

/-- A stock of two items, one of which another transaction is about to remove, with the next removal
planted to be refused. -/
def contended : World Nat Item :=
  ((ofStore (.ofList [⟨1, "pen", 5, none⟩, ⟨2, "ink", 8, none⟩]) : World Nat Item).run
    [.begin 0, .delete 0 2, .plant fun f => { f with refuseDelete := true }]).2

/-- The first removal is refused, the second one goes through, and the identifier is taken again. -/
theorem batch_contended :
    let changes : List (Change Item) := [.insert ⟨0, "cap", 1, none⟩, .delete 1, .delete 1,
      .insert ⟨1, "nib", 2, none⟩, .updatePartial ⟨3, "cup", 1, none⟩]
    let ran := (Batch.run changes).run Session.answer (contended.session 1)
    let after := contended.resume 1 ran.state
    contended.store.faults.begin = none ∧
      (∃ effects, ran.outcome = .ok (.ok effects) ∧ effects.length = 5) ∧
      after.store.get? 1 = some ⟨1, "nib", 2, none⟩ ∧
      after.store.get? 3 = some ⟨3, "cup", 1, none⟩ ∧ after.store.tally = ⟨2, 1, 0, 1⟩ := by
  intro changes ran after
  have hbegin : contended.store.faults.begin = none := rfl
  obtain ⟨hok, -, -, -⟩ := batch_all_or_nothing contended 1 changes hbegin
  have houtcome : ran.outcome = .ok (.ok [.stored ⟨3, "cap", 1, none⟩, .removed false,
    .removed true, .stored ⟨1, "nib", 2, none⟩, .stored ⟨3, "cup", 1, none⟩]) := rfl
  obtain ⟨-, hget, htally⟩ := hok _ houtcome
  exact ⟨hbegin, ⟨_, houtcome, rfl⟩, hget 1, hget 3, htally⟩

end World

end ResourceApi
