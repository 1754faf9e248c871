import ResourceApi.Resource.Service

/-!
# Courses of scripts

A course is what a run comes to when the recorded events are left aside: its outcome, the state it
leaves behind and its calls. The course of a script that goes on is the course of its first part,
continued; so the course of a request is put together from the courses of its stages.

## Main definitions

- `Reply.outcome`, `Reply.ofOutcome` — a reply as the outcome of a script, and back
- `Course` — outcome, state and calls of a run
- `Course.andThen`, `Course.proceed` — a course, continued
- `Script.course`, `Stage.course` — the courses of scripts and of stages
-/

namespace ResourceApi

variable {E σ α β : Type}

/-- The outcome of a script that only makes a call with this reply. -/
def Reply.outcome : Reply α → Except String (Except Failure α)
  | .returned value => .ok (.ok value)
  | .failed failure => .ok (.error failure)
  | .crashed message => .error message

/-- The reply that an outcome is the outcome of. -/
def Reply.ofOutcome : Except String (Except Failure α) → Reply α
  | .ok (.ok value) => .returned value
  | .ok (.error failure) => .failed failure
  | .error message => .crashed message

theorem Reply.ofOutcome_outcome (reply : Reply α) : Reply.ofOutcome reply.outcome = reply := by
  cases reply <;> rfl

/-- What a run comes to, the recorded events aside. -/
structure Course (E σ α : Type) where
  /-- The value returned, or the message of the crash. -/
  outcome : Except String α
  state : σ
  calls : List (Call E)

namespace Course

def after (calls : List (Call E)) (c : Course E σ α) : Course E σ α :=
  { c with calls := calls ++ c.calls }

/-- A course that goes on unless it has crashed. -/
def andThen (c : Course E σ α) (next : α → σ → Course E σ β) : Course E σ β :=
  match c.outcome with
  | .ok a => (next a c.state).after c.calls
  | .error message => ⟨.error message, c.state, c.calls⟩

/-- A course that goes on unless it has crashed or refused. -/
def proceed (c : Course E σ (Except Problem α)) (next : α → σ → Course E σ (Except Problem β)) :
    Course E σ (Except Problem β) :=
  c.andThen fun result s =>
    match result with
    | .ok a => next a s
    | .error problem => ⟨.ok (.error problem), s, []⟩

@[simp] theorem after_nil (c : Course E σ α) : c.after [] = c := rfl

@[simp] theorem after_after (calls calls' : List (Call E)) (c : Course E σ α) :
    (c.after calls').after calls = c.after (calls ++ calls') := by
  simp only [after, List.append_assoc]

@[simp] theorem calls_after (calls : List (Call E)) (c : Course E σ α) :
    (c.after calls).calls = calls ++ c.calls := rfl

@[simp] theorem after_mk (calls calls' : List (Call E)) (outcome : Except String α) (s : σ) :
    (⟨outcome, s, calls'⟩ : Course E σ α).after calls = ⟨outcome, s, calls ++ calls'⟩ := rfl

@[simp] theorem andThen_ok (a : α) (s : σ) (calls : List (Call E))
    (next : α → σ → Course E σ β) :
    (⟨.ok a, s, calls⟩ : Course E σ α).andThen next = (next a s).after calls := rfl

theorem after_andThen (calls : List (Call E)) (c : Course E σ α) (next : α → σ → Course E σ β) :
    (c.after calls).andThen next = (c.andThen next).after calls := by
  obtain ⟨outcome, s, calls'⟩ := c
  cases outcome with
  | ok a => simp only [after_mk, andThen_ok, after_after]
  | error message => rfl

@[simp] theorem proceed_ok (a : α) (s : σ) (calls : List (Call E))
    (next : α → σ → Course E σ (Except Problem β)) :
    (⟨.ok (.ok a), s, calls⟩ : Course E σ (Except Problem α)).proceed next =
      (next a s).after calls := rfl

@[simp] theorem proceed_refused (problem : Problem) (s : σ) (calls : List (Call E))
    (next : α → σ → Course E σ (Except Problem β)) :
    (⟨.ok (.error problem), s, calls⟩ : Course E σ (Except Problem α)).proceed next =
      ⟨.ok (.error problem), s, calls⟩ := by
  simp only [proceed, andThen_ok, after_mk, List.append_nil]

end Course

namespace Script

variable (answer : Answerer E σ)

def course (script : Script E α) (s : σ) : Course E σ α :=
  ⟨(script.run answer s).outcome, (script.run answer s).state, (script.run answer s).calls⟩

@[simp] theorem course_pure (a : α) (s : σ) :
    (pure a : Script E α).course answer s = ⟨.ok a, s, []⟩ := rfl

theorem course_ask (call : Call E) (next : Reply call.Result → Script E α) (s : σ) :
    (Script.ask call next).course answer s =
      ((next (answer call s).1).course answer (answer call s).2).after [call] := rfl

@[simp] theorem course_note (event : Event) (next : Script E α) (s : σ) :
    (Script.note event next).course answer s = next.course answer s := rfl

@[simp] theorem course_emit (event : Event) (s : σ) :
    (emit event : Script E Unit).course answer s = ⟨.ok (), s, []⟩ := rfl

/-- The course of a script that goes on, by induction on its first part. -/
@[simp] theorem course_bind (script : Script E α) (next : α → Script E β) (s : σ) :
    (script >>= next).course answer s =
      (script.course answer s).andThen fun a s => (next a).course answer s := by
  change (script.bind next).course answer s = _
  -- The state moves on with every call, so it has to vary in the induction.
  induction script generalizing s with
  | done a => rfl
  | crash message => rfl
  | ask call rest ih => rw [Script.bind, course_ask, ih, course_ask, Course.after_andThen]
  | note event rest ih => rw [Script.bind, course_note, ih, course_note]

/-- A call returns, fails or crashes as it is answered. -/
theorem course_call (c : Call E) (s : σ) :
    (Script.call c).course answer s = ⟨(answer c s).1.outcome, (answer c s).2, [c]⟩ := by
  rw [call, course_ask]
  cases (answer c s).1 <;> rfl

/-- Catching a crash changes nothing but the outcome. -/
theorem course_attempt (script : Script E α) (s : σ) :
    script.attempt.course answer s =
      ⟨.ok (script.course answer s).outcome, (script.course answer s).state,
        (script.course answer s).calls⟩ := by
  induction script generalizing s with
  | done a => rfl
  | crash message => rfl
  -- Only the end of a script can crash: a call is kept with all that follows its reply.
  | ask call rest ih => rw [attempt, course_ask, ih, course_ask]; rfl
  | note event rest ih => rw [attempt, course_note, ih, course_note]

end Script

namespace Stage

variable (answer : Script.Answerer E σ)

def course (stage : Stage E α) (s : σ) : Course E σ (Except Problem α) :=
  Script.course answer stage.run s

@[simp] theorem course_pure (a : α) (s : σ) :
    course answer (pure a : Stage E α) s = ⟨.ok (.ok a), s, []⟩ := rfl

@[simp] theorem course_throw (problem : Problem) (s : σ) :
    course answer (throw problem : Stage E α) s = ⟨.ok (.error problem), s, []⟩ := rfl

@[simp] theorem course_lift (script : Script E α) (s : σ) :
    course answer (ExceptT.lift script : Stage E α) s =
      (script.course answer s).andThen fun a s => ⟨.ok (.ok a), s, []⟩ := by
  change Script.course answer (Except.ok <$> script) s = _
  rw [show (Except.ok <$> script : Script E (Except Problem α)) = script >>= fun a => pure (.ok a)
    from rfl, Script.course_bind]
  rfl

@[simp] theorem course_bind (stage : Stage E α) (next : α → Stage E β) (s : σ) :
    course answer (stage >>= next) s =
      (course answer stage s).proceed fun a s => course answer (next a) s := by
  change Script.course answer (stage.run >>= ExceptT.bindCont next) s = _
  rw [Script.course_bind]
  refine congrArg ((Script.course answer stage.run s).andThen) ?_
  funext result s
  cases result with
  | ok a => rfl
  | error problem => rfl

/-- The course of a stage that goes on, from the courses of its two parts. -/
theorem course_bind_of {stage : Stage E α} {next : α → Stage E β} {s : σ}
    {c : Course E σ (Except Problem α)} {rest : α → σ → Course E σ (Except Problem β)}
    (h : course answer stage s = c) (hnext : ∀ a s, course answer (next a) s = rest a s) :
    course answer (stage >>= next) s = c.proceed rest := by
  rw [course_bind, h]
  exact congrArg c.proceed (funext fun a => funext fun s => hnext a s)

end Stage

end ResourceApi
