import ResourceApi.Catalog.Item
import ResourceApi.Proofs.Service.Upkeep
import ResourceApi.Proofs.Store.Endings

/-!
# Every transaction is finished once

A store that is used by a service only never has more transactions begun than ended, nor than
committed and rolled back, whatever is asked of the service and whatever fails.

## Main definitions

- `Tally.Settled` — every transaction begun is ended, and either committed or rolled back
- `Service.Turn`, `Service.after` — requests to a service over a store, with faults planted between
-/

namespace ResourceApi

variable {E D : Type}

/-- Every transaction begun is ended, and either committed or rolled back. -/
structure Tally.Settled (t : Tally) : Prop where
  ended : t.begun = t.ended
  /-- As many are committed or rolled back as begun. -/
  finished : t.begun = t.committed + t.rolledBack

namespace Session

variable [Entity E]

/-- Only the calls that open and finish a transaction are counted. -/
theorem answer_tally {call : Call E}
    (h : call.isChange ∨ call.opens = false ∧ call.isInside = false) (x : Session E) :
    (Session.answer call x).2.store.tally = x.store.tally := by
  cases call with
  | findAll query => exact findAll_keeps Store.steady_tally x query
  | findById id => exact findById_keeps Store.steady_tally x id
  | contains id => exact contains_keeps Store.steady_tally x id
  | insert e => exact insert_keeps Store.steady_tally x e
  | update e => exact update_keeps Store.steady_tally x e
  | updatePartial e => exact update_keeps Store.steady_tally x e
  | delete id => exact delete_keeps Store.steady_tally x id
  | begin => simp [Call.isChange, Call.opens] at h
  | commit => simp [Call.isChange, Call.isInside] at h
  | rollback => simp [Call.isChange, Call.isInside] at h
  | release => simp [Call.isChange, Call.isInside] at h

/-- A transaction is counted when it opens. -/
theorem begin_cases (x : Session E) :
    (∃ failure, Session.answer .begin x = (.failed failure, x.begin.2) ∧
        x.begin.2.store.tally = x.store.tally) ∨
      (Session.answer .begin x = (.returned (), x.begin.2) ∧
        x.begin.2.store.tally = { x.store.tally with begun := x.store.tally.begun + 1 }) := by
  cases hfault : x.store.faults.begin with
  | some failure =>
    refine .inl ⟨failure, answer_begin_of_fault hfault, ?_⟩
    simp only [begin, hfault]
    rfl
  | none =>
    refine .inr ⟨answer_begin_of_faultless hfault, ?_⟩
    rw [begin_of_faultless hfault]
    rfl

end Session

namespace Service

variable [Entity E] (s : Service E D)

/-- The work of a transaction is not counted. -/
theorem ofChange_tally {change : Except String (Call E)}
    (h : ∀ call, change = .ok call → call.isChange) (x : Session E) :
    ((Work.ofChange Session.answer change).act x).2.store.tally = x.store.tally := by
  cases change with
  | error message => rfl
  | ok call => exact Session.answer_tally (.inl (h call rfl)) x

/-- The end of a transaction settles the tally, whether its work succeeds or not. -/
theorem endState_settled {t : Tally} (ht : t.Settled) {done : Reply Unit × Session E}
    (hdone : done.2.store.tally = { t with begun := t.begun + 1 }) :
    (endState Session.answer done).store.tally.Settled := by
  obtain ⟨hended, hfinished⟩ := ht
  rcases Session.end_cases done with
    ⟨-, -, -, -, -, hpublished⟩ | ⟨-, -, hdiscarded⟩
  · rw [hpublished.tally, hdone]
    constructor <;> dsimp only <;> omega
  · rw [hdiscarded.tally, hdone]
    constructor <;> dsimp only <;> omega

theorem transactState_settled {change : Except String (Call E)}
    (h : ∀ call, change = .ok call → call.isChange) {x : Session E}
    (hx : x.store.tally.Settled) :
    (transactState Session.answer (.ofChange Session.answer change) x).store.tally.Settled := by
  unfold transactState
  rcases x.begin_cases with ⟨failure, hreply, htally⟩ | ⟨hreply, htally⟩
  · rw [hreply]
    exact htally ▸ hx
  · rw [hreply]
    exact endState_settled hx ((ofChange_tally h _).trans htally)

/-- A request leaves a settled tally settled, for its look-up and its transaction do. -/
theorem handle_settled {x : Session E} (hx : x.store.tally.Settled) (request : Request) :
    ((s.handle request).run Session.answer x).state.store.tally.Settled := by
  have hlooked : (s.looked Session.answer x request).store.tally.Settled := by
    unfold looked
    cases hlookup : s.lookup? request with
    | none => exact hx
    | some call =>
      dsimp only
      rw [Session.answer_tally (.inr (s.lookup?_outside hlookup))]
      exact hx
  refine s.handle_keeps (I := fun y : Session E => y.store.tally.Settled) Session.answer_calm hx
    hlooked fun _ change hchange => ?_
  exact transactState_settled (fun _ => s.change?_isChange hchange) hlooked

/-- What happens to a store that is used by a service only. -/
inductive Turn where
  | request (request : Request)
  | plant (change : Faults → Faults)

def turn (store : Store E) : Turn → Store E
  | .request request => (store.perform (s.handle request)).state.store
  | .plant change => store.withFaults (change store.faults)

def after (store : Store E) (turns : List Turn) : Store E := turns.foldl s.turn store

theorem after_settled {store : Store E} (h : store.tally.Settled) (turns : List Turn) :
    (s.after store turns).tally.Settled := by
  induction turns generalizing store with
  | nil => exact h
  | cons turn turns ih =>
    cases turn with
    | request request => exact ih (s.handle_settled (x := ⟨store, ∅⟩) h request)
    -- Planted faults are not counted.
    | plant change => exact ih h

/-- **Gates and transactions of a service**: over any repository the requests go through their gates
in order and finish what they open, and over a store that only the service uses every transaction
begun is ended, and committed or rolled back, whatever faults are planted. -/
theorem gated_and_settled :
    (∀ {σ : Type} (answer : Script.Answerer E σ), Calm answer →
        ∀ x request, s.Gated answer x request) ∧
      ∀ (entities : List E) (turns : List Turn),
        (s.after (.ofList entities) turns).tally.Settled :=
  ⟨fun _ h x request => s.gated h x request, fun _ turns => s.after_settled ⟨rfl, rfl⟩ turns⟩

/-- A repository that knows everything, crashes at a removal, and fails to end what it has
opened. -/
def crumbling : Script.Answerer Item Nat
  | .contains _, n => (.returned true, n + 1)
  | .begin, n => (.returned (), n + 1)
  | .delete _, n => (.crashed "out of order", n + 1)
  | .rollback, n => (.failed (.transactionFailed .rollback "out of order"), n + 1)
  | .release, n => (.failed (.transactionFailed .rollback "out of order"), n + 1)
  | _, n => (.failed (.of .findById .other "out of order"), n)

def stock : Service Item Item.Draft := ⟨Item.resource true [], .usual⟩

theorem gated_crumbling :
    Calm crumbling ∧ stock.Gated crumbling 0 (.delete 2) ∧
      ((stock.handle (.delete 2)).run crumbling 0).outcome = .error "out of order" ∧
      ((stock.handle (.delete 2)).run crumbling 0).calls =
        [.contains 2, .begin, .delete 2, .rollback, .release] ∧
      (stock.after (.ofList [⟨1, "pen", 5, none⟩, ⟨2, "ink", 8, none⟩])
        [.plant fun f => { f with commit := some "full" }, .request (.delete 2),
          .request (.delete 2)]).tally = ⟨2, 1, 1, 2⟩ := by
  have hcalm : Calm crumbling := fun n message => ⟨nofun, nofun⟩
  exact ⟨hcalm, (gated_and_settled stock).1 crumbling hcalm 0 (.delete 2), rfl, rfl, rfl⟩

end Service

end ResourceApi
