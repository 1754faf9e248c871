import ResourceApi.Http.Routes
import ResourceApi.Proofs.Script
import ResourceApi.Store.Answerer

/-!
# What messages leave behind

A message reaches the service with one request or with none. What surrounds the request in the
response to it calls nothing, so behind a message the repository stands as it does behind its
request, and the response shows how the request has ended.

## Main definitions

- `Routes.shown` — the response that shows how a request has ended
- `Routes.answered` — what a message is answered
- `Routes.Turn`, `Routes.after` — messages to a service over a store, with faults planted between

## Main results

- `Routes.outcome_respond_eq`, `Routes.outcome_respond` — the response to a message
- `Routes.state_respond` — what a message leaves behind
- `Routes.after_keeps` — what requests keep, messages keep
-/

namespace ResourceApi

variable {E D σ α β : Type}

/-- What follows a course and calls nothing leaves the state as it is. -/
theorem Course.state_andThen {c : Course E σ α} {next : α → σ → Course E σ β}
    (h : ∀ a s, (next a s).state = s) : (c.andThen next).state = c.state := by
  obtain ⟨outcome, s, calls⟩ := c
  cases outcome with
  | ok a => exact h a s
  | error message => rfl

namespace Routes

variable (r : Routes E D) (answer : Script.Answerer E σ)

/-- The response that shows how a request has ended. -/
def shown (operation : Operation) : Except String (Except Problem Grant) → Response
  | .ok (.ok grant) => .ofGrant grant
  | .ok (.error problem) => .ofProblem problem
  | .error message => .ofProblem (.internal operation ("worker task failed: " ++ message))

theorem outcome_serve (request : Request) (x : σ) :
    ((r.serve request).course answer x).outcome =
      .ok (shown request.operation ((r.service.handle request).course answer x).outcome) := by
  rw [serve, Script.course_bind, Script.course_attempt, Course.andThen_ok]
  cases ((r.service.handle request).course answer x).outcome with
  | error message => rfl
  | ok result => cases result <;> rfl

/-- What a message is answered, before the body is taken away from an answer to `HEAD`. -/
def answered (m : Message) (x : σ) : Response :=
  match r.dispatch m with
  | .settled response => response
  | .unidentified operation raw => .ofProblem (.invalidIdentifier operation raw)
  | .request request =>
    shown request.operation ((r.service.handle request).run answer x).outcome

theorem outcome_answer (m : Message) (x : σ) :
    ((r.answer m).course answer x).outcome = .ok (r.answered answer m x) := by
  unfold Routes.answer answered
  cases r.dispatch m with
  | settled response => rfl
  | unidentified operation raw => rfl
  | request request => exact r.outcome_serve answer request x

/-- Every message has a response. -/
theorem outcome_respond_eq (m : Message) (x : σ) :
    ((r.respond m).run answer x).outcome =
      .ok (if m.method == "HEAD" then (r.answered answer m x).withoutBody
        else r.answered answer m x) := by
  change ((r.respond m).course answer x).outcome = _
  rw [respond, Script.course_bind, Course.andThen, r.outcome_answer answer m x]
  rfl

theorem outcome_respond_of_answered {m : Message} {response : Response} {x : σ}
    (h : r.answered answer m x = response) (hmethod : (m.method == "HEAD") = false) :
    ((r.respond m).run answer x).outcome = .ok response := by
  rw [outcome_respond_eq, hmethod, h]
  rfl

/-- **The response to a message** that reaches the service shows how its request has ended. -/
theorem outcome_respond {m : Message} {request : Request} (h : r.dispatch m = .request request)
    (hmethod : (m.method == "HEAD") = false) (x : σ) :
    ((r.respond m).run answer x).outcome =
      .ok (shown request.operation ((r.service.handle request).run answer x).outcome) :=
  r.outcome_respond_of_answered answer (by rw [answered, h]) hmethod

/-- A message that does not reach the service is answered the same whatever the repository does. -/
theorem outcome_respond_settled {m : Message} {response : Response}
    (h : r.dispatch m = .settled response) (hmethod : (m.method == "HEAD") = false) (x : σ) :
    ((r.respond m).run answer x).outcome = .ok response :=
  r.outcome_respond_of_answered answer (by rw [answered, h]) hmethod

/-- A crash is caught, and a refusal is recorded; neither calls anything. -/
theorem state_serve (request : Request) (x : σ) :
    ((r.serve request).course answer x).state =
      ((r.service.handle request).course answer x).state := by
  rw [serve, Script.course_bind, Script.course_attempt]
  refine Course.state_andThen fun outcome s => ?_
  cases outcome with
  | error message => rfl
  | ok result => cases result <;> rfl

theorem state_answer (m : Message) (x : σ) :
    ((r.answer m).course answer x).state =
      match r.dispatch m with
      | .request request => ((r.service.handle request).course answer x).state
      | _ => x := by
  unfold Routes.answer
  cases r.dispatch m with
  | request request => exact r.state_serve answer request x
  | settled response => rfl
  | unidentified operation raw => rfl

/-- **What a message leaves behind** is what its request does, if it reaches the
service with one. -/
theorem state_respond (m : Message) (x : σ) :
    ((r.respond m).run answer x).state =
      match r.dispatch m with
      | .request request => ((r.service.handle request).run answer x).state
      | _ => x := by
  refine Eq.trans ?_ (r.state_answer answer m x)
  change ((r.respond m).course answer x).state = _
  rw [respond, Script.course_bind]
  exact Course.state_andThen fun _ _ => rfl

/-- What happens to a store that is reached by messages only. -/
inductive Turn where
  | message (m : Message)
  | plant (change : Faults → Faults)

variable [Entity E]

def turn (store : Store E) : Turn → Store E
  | .message m => (store.perform (r.respond m)).state.store
  | .plant change => store.withFaults (change store.faults)

def after (store : Store E) (turns : List Turn) : Store E := turns.foldl r.turn store

variable {I : Store E → Prop}

/-- What every request keeps a message keeps. -/
theorem turn_message_keeps
    (hrequest : ∀ store request, I store →
      I (store.perform (r.service.handle request)).state.store)
    {store : Store E} (h : I store) (m : Message) : I (r.turn store (.message m)) := by
  have hstate := r.state_respond Session.answer m ⟨store, ∅⟩
  change I ((r.respond m).run Session.answer ⟨store, ∅⟩).state.store
  rw [hstate]
  cases r.dispatch m with
  | request request => exact hrequest store request h
  | settled response => exact h
  | unidentified operation raw => exact h

/-- What every request keeps and planted faults do not touch is kept by any messages, by induction
on the turns. -/
theorem after_keeps
    (hrequest : ∀ store request, I store →
      I (store.perform (r.service.handle request)).state.store)
    (hplant : ∀ store faults, I store → I (store.withFaults faults))
    {store : Store E} (h : I store) (turns : List Turn) : I (r.after store turns) := by
  induction turns generalizing store with
  | nil => exact h
  | cons turn turns ih =>
    refine ih ?_
    cases turn with
    | plant change => exact hplant store _ h
    | message m => exact r.turn_message_keeps hrequest h m

/-- Messages alone keep whatever requests keep, by induction on them. -/
theorem after_messages_keeps
    (hrequest : ∀ store request, I store →
      I (store.perform (r.service.handle request)).state.store)
    {store : Store E} (h : I store) (messages : List Message) :
    I (r.after store (messages.map .message)) := by
  induction messages generalizing store with
  | nil => exact h
  | cons m messages ih => exact ih (r.turn_message_keeps hrequest h m)

end Routes

end ResourceApi
