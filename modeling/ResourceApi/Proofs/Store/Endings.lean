import ResourceApi.Proofs.Store.Answers

/-!
# How transactions end

Whatever the work of a transaction comes to, its end on a store is one of two: what is staged is
published as a whole, or it is discarded as a whole.

## Main definitions

- `Scope.reply` — what a scope returns, from what its work has come to
- `Session.Published`, `Session.Discarded` — the store behind each of the two ends

## Main results

- `Session.end_cases` — a transaction is published or discarded
- `Service.transact_cases` — the same of a transaction that a service opens
-/

namespace ResourceApi

variable {E D σ α : Type}

namespace Scope

variable (answer : Script.Answerer E σ)

/-- The reply of a scope, from what its work has come to: only a commit can take its value away. -/
def reply (done : Reply α × σ) : Reply α :=
  match done.1 with
  | .returned value =>
    match (answer .commit done.2).1 with
    | .returned _ => .returned value
    | .failed failure => .failed failure
    | .crashed message => .crashed message
  | .failed failure => .failed failure
  | .crashed message => .crashed message

theorem course_run_of {answer : Script.Answerer E σ} (h : Calm answer)
    {work : Script E (Except Failure α)} {x : σ} {done : Reply α × σ} {calls : List (Call E)}
    (hwork : work.course answer x = ⟨done.1.outcome, done.2, calls⟩) :
    ∃ all, (run work).course answer x =
      ⟨(reply answer done).outcome, Service.endState answer done, all⟩ := by
  rw [run, course_runFor h, hwork]
  obtain ⟨result, y⟩ := done
  cases result with
  | failed failure => exact ⟨_, rfl⟩
  | crashed message => exact ⟨_, rfl⟩
  | returned value =>
    unfold reply Service.endState
    dsimp only [Reply.outcome]
    cases (answer .commit y).1 with
    | returned committed => exact ⟨_, rfl⟩
    | failed failure => exact ⟨_, rfl⟩
    | crashed message => exact ⟨_, rfl⟩

end Scope

namespace Session

/-- What a transaction leaves behind when it is rolled back and released: nothing staged, and a
store that only counts one more of each. -/
structure Discarded (x y : Session E) : Prop where
  entities : y.store.entities = x.store.entities
  nextId : y.store.nextId = x.store.nextId
  tally : y.store.tally =
    { x.store.tally with
      rolledBack := x.store.tally.rolledBack + 1, ended := x.store.tally.ended + 1 }
  writes : y.writes = ∅

/-- What a transaction leaves behind when it is committed and released. -/
structure Published (x y : Session E) : Prop where
  entities : y.store.entities = (x.store.applyAll x.writes).entities
  tally : y.store.tally =
    { x.store.tally with
      committed := x.store.tally.committed + 1, ended := x.store.tally.ended + 1 }
  writes : y.writes = ∅

variable [Entity E]

theorem discarded_settled (x : Session E) :
    x.Discarded (Scope.settled Session.answer x) := ⟨rfl, rfl, rfl, rfl⟩

/-- **The end of a transaction on a store**: either its work has returned and nothing blocks the
commit, and then everything staged is published, or everything staged is discarded. -/
theorem end_cases (done : Reply α × Session E) :
    (∃ value, done.1 = .returned value ∧ Scope.reply Session.answer done = .returned value ∧
        done.2.store.faults.commit = none ∧ ¬ done.2.store.Contradicted done.2.writes ∧
        done.2.Published (Service.endState Session.answer done)) ∨
      ((∀ value, Scope.reply Session.answer done ≠ .returned value) ∧
        (∀ value, done.1 = .returned value →
          done.2.store.faults.commit.isSome ∨ done.2.store.Contradicted done.2.writes) ∧
        done.2.Discarded (Service.endState Session.answer done)) := by
  obtain ⟨result, y⟩ := done
  cases result with
  | failed failure =>
    refine .inr ⟨?_, ?_, y.discarded_settled⟩
    · intro value hreply
      cases hreply
    · intro value hreturned
      cases hreturned
  | crashed message =>
    refine .inr ⟨?_, ?_, y.discarded_settled⟩
    · intro value hreply
      cases hreply
    · intro value hreturned
      cases hreturned
  | returned value =>
    rcases y.commit_cases with ⟨failure, z, hz, hblocked, hentities, htally, -⟩ | ⟨hf, hc, hz⟩
    · have hcommit : Session.answer .commit y = (.failed failure, z) := by
        simp only [Session.answer, hz]
        rfl
      refine .inr ⟨?_, fun _ _ => hblocked, ?_⟩
      · intro value hreply
        simp only [Scope.reply, hcommit] at hreply
        cases hreply
      -- The rollback that follows finds the store as the commit has found it.
      · simp only [Service.endState, hcommit]
        obtain ⟨hentities', hnextId', htally', hwrites'⟩ := z.discarded_settled
        exact ⟨hentities'.trans hentities, hnextId'.trans (nextId_of_commit_error hz),
          htally ▸ htally', hwrites'⟩
    · have hcommit : Session.answer .commit y = (.returned (), y.commit.2) := by
        simp only [Session.answer, hz]
        rfl
      refine .inl ⟨value, rfl, ?_, hf, hc, ?_⟩
      · simp only [Scope.reply, hcommit]
      · simp only [Service.endState, hcommit, hz]
        exact ⟨rfl, rfl, rfl⟩

end Session

namespace Service

variable [Entity E] (s : Service E D)

omit [Entity E] in
/-- A transaction that opens comes to what its scope replies. -/
theorem transactVerdict_of_opened {answer : Script.Answerer E σ} {x : σ}
    (hopened : (answer .begin x).1 = .returned ()) (operation : Operation) (id : Option Int)
    (w : Work E σ α) :
    s.transactVerdict answer operation id w x =
      s.judge operation id (Scope.reply answer (w.act (answer .begin x).2)) := by
  rw [transactVerdict, hopened, Scope.reply]
  dsimp only [judge, bind, Except.bind]
  cases (w.act (answer .begin x).2).1 with
  | failed failure => rfl
  | crashed message => rfl
  | returned value => cases (answer .commit (w.act (answer .begin x).2).2).1 <;> rfl

/-- **A transaction of a service**: either it goes through and everything staged is published, or it
stops the request and nothing is. -/
theorem transact_cases (operation : Operation) (id : Option Int) (w : Work E (Session E) α)
    (x : Session E) :
    let verdict := s.transactVerdict Session.answer operation id w x
    let after := transactState Session.answer w x
    let done := w.act x.begin.2
    (∃ value, verdict = .ok value ∧ x.store.faults.begin = none ∧ done.1 = .returned value ∧
        done.2.Published after) ∨
      (∃ stop, verdict = .error stop ∧
        (after.store.entities = x.store.entities ∨ done.2.Discarded after)) := by
  intro verdict after done
  cases hfault : x.store.faults.begin with
  | some failure =>
    have hopened := Session.answer_begin_of_fault hfault
    refine .inr ⟨.refused (s.internal operation id failure.text), ?_, .inl ?_⟩
    · simp only [verdict, transactVerdict, hopened]
      rfl
    · simp only [after, transactState, hopened]
      exact x.begin_entities
  | none =>
    have hopened := Session.answer_begin_of_faultless hfault
    have hverdict : verdict = s.judge operation id (Scope.reply Session.answer done) :=
      s.transactVerdict_of_opened (congrArg Prod.fst hopened) operation id w
    have hafter : after = endState Session.answer done := by
      simp only [after, transactState, hopened, done]
    rw [hverdict, hafter]
    rcases Session.end_cases done with
      ⟨value, hdone, hreply, -, -, hpublished⟩ | ⟨hreply, -, hdiscarded⟩
    · exact .inl ⟨value, by rw [hreply]; rfl, rfl, hdone, hpublished⟩
    · refine .inr ?_
      cases hr : Scope.reply Session.answer done with
      | returned value => exact absurd hr (hreply value)
      | failed failure => exact ⟨_, rfl, .inr hdiscarded⟩
      | crashed message => exact ⟨_, rfl, .inr hdiscarded⟩

end Service

end ResourceApi
