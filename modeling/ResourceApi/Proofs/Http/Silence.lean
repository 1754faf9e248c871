import ResourceApi.Catalog.Item
import ResourceApi.Http.Routes
import ResourceApi.Proofs.Script
import ResourceApi.Proofs.Service.Opacity
import ResourceApi.Proofs.Store.Wording

/-!
# Silent responses

What is wrong inside a silent service is nobody's business but its own: whichever words its
repository fails in, and whichever words a crash leaves behind, the client is given one and
the same response.

## Main definitions

- `Script.crashAfter` — a script that crashes on its way
- `Routes.respondBy` — the response to a message whose request is worked on by a given script
- `Routes.reworded` — routes to a service with other words

## Main results

- `Routes.alike_respondBy` — workers that differ at most in words
- `Routes.failures_opaque` — what a client of a silent service learns of a failure
-/

namespace ResourceApi

variable {E D σ τ α β : Type}

/-! ## Crashes on the way -/

namespace Script

/-- The script that crashes behind a number of calls and events, unless it has ended by then. -/
def crashAfter (message : String) : Nat → Script E α → Script E α
  | 0, _ => .crash message
  | _ + 1, .done a => .done a
  | _ + 1, .crash message' => .crash message'
  | n + 1, .ask call next => .ask call fun reply => (next reply).crashAfter message n
  | n + 1, .note event next => .note event (next.crashAfter message n)

/-- Alike scripts that crash at the same point are alike, by induction on the way to it. -/
theorem Alike.crashAfter {V : α → β → Prop} {script : Script E α} {script' : Script E β}
    (h : Alike V script script') (message message' : String) (n : Nat) :
    Alike V (script.crashAfter message n) (script'.crashAfter message' n) := by
  induction n generalizing script script' with
  | zero => exact .crash message message'
  | succ n ih =>
    cases h with
    | done hab => exact .done hab
    | crash m m' => exact .crash m m'
    | ask call hnext => exact .ask call fun reply reply' hreply => ih (hnext reply reply' hreply)
    | note event event' hnext => exact .note event event' (ih hnext)

end Script

/-! ## Responses -/

namespace Routes

open Script (alike_emit)

/-- The response to a request that a script works on. -/
def settle (operation : Operation) (work : Script E (Except Problem Grant)) : Script E Response := do
  match ← work.attempt with
  | .ok (.ok grant) => pure (.ofGrant grant)
  | .ok (.error problem) => refuse problem
  | .error message => refuse (.internal operation ("worker task failed: " ++ message))

def answerBy (r : Routes E D) (work : Request → Script E (Except Problem Grant)) (m : Message) :
    Script E Response :=
  match r.dispatch m with
  | .request request => settle request.operation (work request)
  | _ => r.answer m

/-- The response to a message, if these scripts work on requests. -/
def respondBy (r : Routes E D) (work : Request → Script E (Except Problem Grant)) (m : Message) :
    Script E Response := do
  let response ← r.answerBy work m
  pure (if m.method == "HEAD" then response.withoutBody else response)

theorem respond_eq (r : Routes E D) (m : Message) :
    r.respond m = r.respondBy r.service.handle m := by
  have hanswer : r.answer m = r.answerBy r.service.handle m := by
    unfold answerBy answer
    cases r.dispatch m <;> rfl
  rw [respond, hanswer]
  rfl

theorem alike_refuse {p q : Problem} (h : p.Alike q) :
    Script.Alike Eq (refuse p : Script E Response) (refuse q) :=
  (alike_emit _ _).bind fun _ _ _ => .done h.response_eq

/-- Whatever words a crash has left behind, its client is shown the same. -/
theorem alike_settle (operation : Operation) {work work' : Script E (Except Problem Grant)}
    (h : Script.Alike (Outcome.Alike Problem.Alike Eq) work work') :
    Script.Alike Eq (settle operation work) (settle operation work') := by
  refine h.attempt.bind fun result result' hresult => ?_
  cases hresult with
  | error _ => exact alike_refuse rfl
  | ok hdone =>
    cases hdone with
    | ok hgrant => exact .done (by rw [hgrant])
    | error hproblem => exact alike_refuse hproblem

/-- Routes to a service with other words. -/
def reworded (r : Routes E D) (words : Rewording r.service.resource) : Routes E D :=
  { r with service := r.service.reworded words }

variable {r : Routes E D} {words : Rewording r.service.resource}
  {work work' : Request → Script E (Except Problem Grant)}

/-- **Workers that differ at most in words** lead to alike responses. -/
theorem alike_respondBy
    (h : ∀ request, Script.Alike (Outcome.Alike Problem.Alike Eq) (work request) (work' request))
    (m : Message) : Script.Alike Eq (r.respondBy work m) ((r.reworded words).respondBy work' m) := by
  have hdispatch : (r.reworded words).dispatch m = r.dispatch m := rfl
  have hanswered : Script.Alike Eq (r.answerBy work m) ((r.reworded words).answerBy work' m) := by
    unfold answerBy answer
    rw [hdispatch]
    cases r.dispatch m with
    | request request => exact alike_settle request.operation (h request)
    | settled response => exact .done rfl
    | unidentified operation raw => exact (alike_emit _ _).bind fun _ _ _ => alike_refuse rfl
  refine hanswered.bind fun response response' hresponse => ?_
  subst hresponse
  exact .done rfl

/-- A crash is caught, so there is a response to every message. -/
theorem responds_by (answer : Script.Answerer E σ) (m : Message) (x : σ) :
    ∃ response, ((r.respondBy work m).run answer x).outcome = .ok response := by
  have hsettled (request : Request) : ∃ response,
      ((settle request.operation (work request)).course answer x).outcome = .ok response := by
    rw [settle, Script.course_bind, Script.course_attempt, Course.andThen_ok]
    cases ((work request).course answer x).outcome with
    | error message => exact ⟨_, rfl⟩
    | ok result => cases result <;> exact ⟨_, rfl⟩
  have hanswered : ∃ response, ((r.answerBy work m).course answer x).outcome = .ok response := by
    unfold answerBy Routes.answer
    cases r.dispatch m with
    | request request => exact hsettled request
    | settled response => exact ⟨_, rfl⟩
    | unidentified operation raw => exact ⟨_, rfl⟩
  obtain ⟨response, hresponse⟩ := hanswered
  refine ⟨if m.method == "HEAD" then response.withoutBody else response, ?_⟩
  change ((r.respondBy work m).course answer x).outcome = _
  rw [respondBy, Script.course_bind, Course.andThen, hresponse]
  rfl

/-- Alike workers over repositories that fail at the same calls get one response to the client. -/
theorem one_response {R : σ → τ → Prop} {answer : Script.Answerer E σ} {answer' : Script.Answerer E τ}
    (hanswer : answer.Alike R answer') {x : σ} {y : τ} (hxy : R x y)
    (h : ∀ request, Script.Alike (Outcome.Alike Problem.Alike Eq) (work request) (work' request))
    (m : Message) :
    ∃ response, ((r.respondBy work m).run answer x).outcome = .ok response ∧
      (((r.reworded words).respondBy work' m).run answer' y).outcome = .ok response := by
  obtain ⟨response, hresponse⟩ : ∃ response,
      ((r.respondBy work m).run answer x).outcome = .ok response := r.responds_by answer m x
  refine ⟨response, hresponse, ?_⟩
  have halike : Script.Alike Eq (r.respondBy work m) ((r.reworded words).respondBy work' m) :=
    alike_respondBy h m
  have houtcome := (halike.run hanswer hxy).outcome
  rw [hresponse] at houtcome
  cases hother : (((r.reworded words).respondBy work' m).run answer' y).outcome with
  | error message =>
    rw [hother] at houtcome
    cases houtcome
  | ok response' =>
    rw [hother] at houtcome
    cases houtcome with
    | ok hsame => rw [hsame]

/-- **Failures inside a silent service are opaque.** Take two runs of the same message over
repositories that fail and crash at the same calls, each in words of its own, with services that are
kept from making entities or writing documents in the same cases, again each in words of its own.
The client is given one and the same response. So it is if the worker crashes at any other point on
the way, whatever it leaves behind. -/
theorem failures_opaque (r : Routes E D) (hsilent : r.service.options.exposeFailures = false)
    (words : Rewording r.service.resource) {R : σ → τ → Prop} {answer : Script.Answerer E σ}
    {answer' : Script.Answerer E τ} (hanswer : answer.Alike R answer') {x : σ} {y : τ} (hxy : R x y)
    (m : Message) :
    let r' := r.reworded words
    (∃ response, ((r.respond m).run answer x).outcome = .ok response ∧
      ((r'.respond m).run answer' y).outcome = .ok response) ∧
    ∀ (n : Nat) (message message' : String), ∃ response,
      ((r.respondBy (fun request => (r.service.handle request).crashAfter message n) m).run
        answer x).outcome = .ok response ∧
      ((r'.respondBy (fun request => (r'.service.handle request).crashAfter message' n) m).run
        answer' y).outcome = .ok response := by
  intro r'
  have hhandled := Service.alike_handle words hsilent
  constructor
  · rw [respond_eq, respond_eq]
    exact one_response hanswer hxy hhandled m
  · intro n message message'
    exact one_response hanswer hxy (fun request => (hhandled request).crashAfter message message' n) m

/-- A commit that fails for want of room and one that fails for a lock look the same to a client. -/
theorem failures_opaque_items :
    let r : Routes Item Item.Draft := ⟨⟨Item.resource true [], .usual⟩, [.text "/items".toList]⟩
    let words := Rewording.by r.service.resource fun text => "again: " ++ text
    let store (fault : String) : Store Item :=
      (Store.ofList [⟨1, "pen", 5, none⟩]).withFaults { Faults.none with commit := some fault }
    let delete : Message := ⟨"DELETE", "/items/1", [], []⟩
    ∃ response, ((store "no room on disk").perform (r.respond delete)).outcome = .ok response ∧
      ((store "lock held").perform ((r.reworded words).respond delete)).outcome = .ok response ∧
      response.status = 500 := by
  intro r words store delete
  have hfaults : (store "no room on disk").faults.Alike (store "lock held").faults :=
    ⟨.none, .some trivial, rfl, .none, .none, .none⟩
  obtain ⟨⟨response, hresponse, hresponse'⟩, -⟩ := failures_opaque r rfl words Session.answer_alike
    (x := ⟨store "no room on disk", ∅⟩) ⟨_, hfaults, rfl⟩ delete
  refine ⟨response, hresponse, hresponse', ?_⟩
  have hstatus : (((store "no room on disk").perform (r.respond delete)).outcome.toOption.map
      (·.status)) = some 500 := by
    decide +kernel
  change (((r.respond delete).run Session.answer ⟨store "no room on disk", ∅⟩).outcome.toOption.map
    (·.status)) = some 500 at hstatus
  rw [hresponse] at hstatus
  exact Option.some.inj hstatus

end Routes

end ResourceApi
