import ResourceApi.Proofs.Script

/-!
# How scopes end

A scope over an open transaction ends it in one of three ways, and releases it last, whatever its
work does and whatever of its own calls fail. Rollbacks and releases are supposed to report their
failures; a commit may crash as well.

## Main definitions

- `Calm` — rollbacks and releases do not crash
- `Scope.settled` — the state behind a rollback and a release
- `Scope.closing` — the calls that follow the work
- `Scope.Closes`, `Scope.ClosesByCommit` — how a scope ends behind the calls made in it
-/

namespace ResourceApi

variable {E σ α β ε : Type}

/-- Rollbacks and releases may fail but do not crash. -/
def Calm (answer : Script.Answerer E σ) : Prop :=
  ∀ (s : σ) (message : String),
    (answer .rollback s).1 ≠ .crashed message ∧ (answer .release s).1 ≠ .crashed message

namespace Scope

variable {answer : Script.Answerer E σ}

/-- The state behind a rollback and a release. -/
def settled (answer : Script.Answerer E σ) (s : σ) : σ :=
  (answer .release (answer .rollback s).2).2

/-- The calls of a scope behind its work: `commit` is the reply to the commit, if there is one. -/
def closing : Option (Reply Unit) → List (Call E)
  | none => [.rollback, .release]
  | some (.returned _) => [.commit, .release]
  | some _ => [.commit, .rollback, .release]

theorem course_release (h : Calm answer) (state : State) (s : σ) :
    (release state : Script E Unit).course answer s =
      ⟨.ok (), (answer .release s).2, [.release]⟩ := by
  rw [release, Script.course_bind, Script.course_call]
  cases hr : (answer .release s).1 with
  | returned value => rfl
  | failed failure => rfl
  | crashed message => exact absurd hr (h s message).2

theorem course_discard (h : Calm answer) (s : σ) :
    (discard : Script E Unit).course answer s = ⟨.ok (), (answer .rollback s).2, [.rollback]⟩ := by
  rw [discard, Script.course_bind, Script.course_call]
  cases hr : (answer .rollback s).1 with
  | returned value => rfl
  | failed failure => rfl
  | crashed message => exact absurd hr (h s message).1

theorem course_rollback (h : Calm answer) (s : σ) :
    (rollback : Script E Unit).course answer s =
      ⟨.ok (), settled answer s, [.rollback, .release]⟩ := by
  rw [rollback, Script.course_bind, course_discard h, Course.andThen_ok, course_release h]
  rfl

theorem course_abandon (h : Calm answer) (s : σ) :
    (abandon : Script E Unit).course answer s =
      ⟨.ok (), settled answer s, [.rollback, .release]⟩ := by
  rw [abandon, Script.course_bind, Script.course_emit, Course.andThen_ok, course_rollback h]
  rfl

/-- A commit that does not return is followed by a rollback. -/
theorem course_commit (h : Calm answer) (s : σ) :
    (commit : Script E (Except Failure Unit)).course answer s =
      match (answer .commit s).1 with
      | .returned _ =>
        ⟨.ok (.ok ()), (answer .release (answer .commit s).2).2, [.commit, .release]⟩
      | reply =>
        ⟨reply.outcome, settled answer (answer .commit s).2, [.commit, .rollback, .release]⟩ := by
  rw [commit, Script.course_ask]
  cases (answer .commit s).1 with
  | returned value =>
    -- Nothing is left to roll back.
    simp only [Script.course_bind, Script.course_emit, course_release h, Course.andThen_ok]
    rfl
  | failed failure =>
    simp only [Script.course_bind, Script.course_emit, course_rollback h, Course.andThen_ok]
    rfl
  | crashed message =>
    simp only [Script.course_bind, course_abandon h, Course.andThen_ok]
    rfl

/-- **The course of a scope.** Work that succeeds is committed, and its value is returned if the
commit returns. Work that fails or crashes is rolled back, and so is a commit that does not return.
The release comes last. -/
theorem course_runFor (h : Calm answer) (report : Failure → ε) (work : Script E (Except ε α))
    (s : σ) :
    (runFor report work).course answer s =
      match (work.course answer s).outcome with
      | .ok (.ok value) =>
        match (answer .commit (work.course answer s).state).1 with
        | .returned _ =>
          ⟨.ok (.ok value),
            (answer .release (answer .commit (work.course answer s).state).2).2,
            (work.course answer s).calls ++ [.commit, .release]⟩
        | .failed failure =>
          ⟨.ok (.error (report failure)),
            settled answer (answer .commit (work.course answer s).state).2,
            (work.course answer s).calls ++ [.commit, .rollback, .release]⟩
        | .crashed message =>
          ⟨.error message, settled answer (answer .commit (work.course answer s).state).2,
            (work.course answer s).calls ++ [.commit, .rollback, .release]⟩
      | .ok (.error failure) =>
        ⟨.ok (.error failure), settled answer (work.course answer s).state,
          (work.course answer s).calls ++ [.rollback, .release]⟩
      | .error message =>
        ⟨.error message, settled answer (work.course answer s).state,
          (work.course answer s).calls ++ [.rollback, .release]⟩ := by
  rw [runFor, Script.course_bind, Script.course_attempt, Course.andThen_ok]
  -- The crash of the work is caught, so all three outcomes reach the end of the scope.
  cases (work.course answer s).outcome with
  | error message =>
    simp only [Script.course_bind, course_abandon h, Course.andThen_ok]
    rfl
  | ok result =>
    cases result with
    | error failure =>
      simp only [Script.course_bind, course_rollback h, Course.andThen_ok]
      rfl
    | ok value =>
      simp only [Script.course_bind, course_commit h]
      cases (answer .commit (work.course answer s).state).1 <;> rfl

/-! ## What is seen of a scope -/

def isRelease : Call E → Bool
  | .release => true
  | _ => false

/-- A scope that has run: behind the `earlier` calls it makes those of its `ending`, of which the
last one and no other is the release, and it comes to the `outcome`. -/
structure Closes (ran : Script.Run E σ β) (earlier ending : List (Call E))
    (outcome : Except String β) : Prop where
  calls : ran.calls = earlier ++ ending
  outcome : ran.outcome = outcome
  released : ∃ finish, ending = finish ++ [.release] ∧ finish.countP isRelease = 0

/-- A scope closes as its course says. -/
theorem closes_of_course {script : Script E β} {s t : σ} {earlier : List (Call E)}
    {outcome : Except String β} (finish : List (Call E))
    (h : script.course answer s = ⟨outcome, t, earlier ++ (finish ++ [.release])⟩)
    (hfinish : finish.countP isRelease = 0) :
    Closes (script.run answer s) earlier (finish ++ [.release]) outcome where
  calls := congrArg Course.calls h
  outcome := congrArg Course.outcome h
  released := ⟨finish, rfl, hfinish⟩

theorem closes_rollback (h : Calm answer) (s : σ) :
    Closes ((rollback : Script E Unit).run answer s) [] [.rollback, .release] (.ok ()) :=
  closes_of_course [.rollback] (course_rollback h s) rfl

theorem closes_abandon (h : Calm answer) (s : σ) :
    Closes ((abandon : Script E Unit).run answer s) [] [.rollback, .release] (.ok ()) :=
  closes_of_course [.rollback] (course_abandon h s) rfl

/-- A scope that has ended by a commit, from the reply to the commit: it comes to a `value` if the
commit has returned, and to what it makes of the failure if the commit has failed. -/
def ClosesByCommit (ran : Script.Run E σ β) (earlier : List (Call E)) (reply : Reply Unit)
    (value : β) (refuse : Failure → β) : Prop :=
  match reply with
  | .returned _ => Closes ran earlier [.commit, .release] (.ok value)
  | .failed failure => Closes ran earlier [.commit, .rollback, .release] (.ok (refuse failure))
  | .crashed message => Closes ran earlier [.commit, .rollback, .release] (.error message)

theorem closes_commit (h : Calm answer) (s : σ) :
    ClosesByCommit ((commit : Script E (Except Failure Unit)).run answer s) []
      (answer .commit s).1 (.ok ()) .error := by
  have hcourse := course_commit h s
  unfold ClosesByCommit
  cases hreply : (answer .commit s).1 with
  | returned value =>
    rw [hreply] at hcourse
    exact closes_of_course [.commit] hcourse rfl
  | failed failure =>
    rw [hreply] at hcourse
    exact closes_of_course [.commit, .rollback] hcourse rfl
  | crashed message =>
    rw [hreply] at hcourse
    exact closes_of_course [.commit, .rollback] hcourse rfl

theorem closes_runFor (h : Calm answer) (report : Failure → ε) (work : Script E (Except ε α))
    (s : σ) :
    let before := work.run answer s
    let ran := (runFor report work).run answer s
    match before.outcome with
    | .ok (.ok value) =>
      ClosesByCommit ran before.calls (answer .commit before.state).1 (.ok value)
        fun failure => .error (report failure)
    | .ok (.error failure) =>
      Closes ran before.calls [.rollback, .release] (.ok (.error failure))
    | .error message => Closes ran before.calls [.rollback, .release] (.error message) := by
  intro before ran
  have hcourse := course_runFor h report work s
  rw [show (work.course answer s).outcome = before.outcome from rfl,
    show (work.course answer s).state = before.state from rfl,
    show (work.course answer s).calls = before.calls from rfl] at hcourse
  cases houtcome : before.outcome with
  | error message =>
    rw [houtcome] at hcourse
    exact closes_of_course [.rollback] hcourse rfl
  | ok result =>
    rw [houtcome] at hcourse
    cases result with
    | error failure => exact closes_of_course [.rollback] hcourse rfl
    | ok value =>
      dsimp only
      unfold ClosesByCommit
      cases hreply : (answer .commit before.state).1 with
      | returned committed =>
        simp only [hreply] at hcourse
        exact closes_of_course [.commit] hcourse rfl
      | failed failure =>
        simp only [hreply] at hcourse
        exact closes_of_course [.commit, .rollback] hcourse rfl
      | crashed message =>
        simp only [hreply] at hcourse
        exact closes_of_course [.commit, .rollback] hcourse rfl

/-- **Every scope closes once.** Behind the calls of its work, a scope commits and releases if the
work and the commit succeed, commits, rolls back and releases if the commit fails, and rolls back
and releases if the work fails or crashes. It comes to the value of the work in the first case, and
else to what went wrong first: no failure of a rollback or of a release takes its place. The same
holds of a scope that is committed, rolled back or left while it is open. -/
theorem scope_closes_once (h : Calm answer) (s : σ) :
    (∀ {α ε : Type} (report : Failure → ε) (work : Script E (Except ε α)),
      let before := work.run answer s
      let ran := (runFor report work).run answer s
      match before.outcome with
      | .ok (.ok value) =>
        ClosesByCommit ran before.calls (answer .commit before.state).1 (.ok value)
          fun failure => .error (report failure)
      | .ok (.error failure) =>
        Closes ran before.calls [.rollback, .release] (.ok (.error failure))
      | .error message => Closes ran before.calls [.rollback, .release] (.error message)) ∧
    ClosesByCommit ((commit : Script E (Except Failure Unit)).run answer s) []
      (answer .commit s).1 (.ok ()) .error ∧
    Closes ((rollback : Script E Unit).run answer s) [] [.rollback, .release] (.ok ()) ∧
    Closes ((abandon : Script E Unit).run answer s) [] [.rollback, .release] (.ok ()) :=
  ⟨fun report work => closes_runFor h report work s, closes_commit h s, closes_rollback h s,
    closes_abandon h s⟩

/-- A repository that takes in every entity and fails whenever a transaction is to be ended. -/
def grudging : Script.Answerer String Nat
  | .insert e, n => (.returned e, n + 1)
  | .commit, n => (.failed (.transactionFailed .commit "disk full"), n)
  | .rollback, n => (.failed (.transactionFailed .rollback "connection lost"), n)
  | .release, n => (.failed (.connectionFailed "pool closed"), n)
  | _, n => (.failed (.of .findById .other "out of order"), n)

/-- Work that inserts one entity and counts it. -/
def insertOne : Script String (Except String Nat) := do
  let _ ← Script.call (.insert "pen")
  pure (.ok 1)

/-- Of three failures in a row the first one is reported. -/
theorem scope_closes_grudging :
    Calm grudging ∧
      Closes ((runFor Failure.message insertOne).run grudging 0) [.insert "pen"]
        [.commit, .rollback, .release] (.ok (.error "disk full")) := by
  have hcalm : Calm grudging := fun n message => ⟨nofun, nofun⟩
  exact ⟨hcalm, (scope_closes_once hcalm 0).1 Failure.message insertOne⟩

end Scope

end ResourceApi
