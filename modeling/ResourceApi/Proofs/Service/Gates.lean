import ResourceApi.Proofs.Service.Requests

/-!
# The gates of a request

A request meets gates in a fixed order, and the first one that stops it decides how it ends. Two of
them call the repository: the look-up, and the transaction, which is opened only behind all the
others but the rendering of the answer.

## Main definitions

- `Gate` — the gates in their order
- `Service.stop?` — what stops a request at a gate
- `Service.lookup?`, `Service.change?` — the call that looks up what a request is about, and the one
  that changes it
- `Service.passage` — a gate with its calls and the state behind it
- `Course.through` — the course through gates, up to the first one that stops
-/

namespace ResourceApi

variable {E D σ α β : Type}

/-- The gates that requests meet. -/
inductive Gate where
  /-- The identifier has to be positive. -/
  | identifier
  /-- The entity has to be deletable. -/
  | policy
  /-- The query string has to be usable. -/
  | query
  /-- What the request is about has to be there. -/
  | existence
  /-- The body has to be a document that keeps the rules. -/
  | document
  /-- The document must not claim another identifier. -/
  | agreement
  /-- The change has to be made and committed. -/
  | transaction
  /-- The answer has to be rendered. -/
  | answer
deriving DecidableEq

namespace Gate

/-- The gates that call nothing and come first. -/
def checks : List Gate := [.identifier, .policy, .query]

def beforeTransaction : List Gate := checks ++ [.existence, .document, .agreement]

def all : List Gate := beforeTransaction ++ [.transaction, .answer]

end Gate

/-- The identifier of the path of a request. -/
def Request.id? : Request → Option Int
  | .list .. | .create .. => none
  | .get id _ | .update id _ | .updatePartial id _ | .delete id => some id

/-- The value of a verdict, if there is one. -/
def Verdict.value? : Verdict α → Option α
  | .ok a => some a
  | .error _ => none

theorem Verdict.value?_eq_some_iff {verdict : Verdict α} {a : α} :
    verdict.value? = some a ↔ verdict = .ok a := by
  cases verdict <;> simp [Verdict.value?]

namespace Service

variable (s : Service E D) (answer : Script.Answerer E σ)

/-- The call that looks up what a request is about. -/
def lookup? : Request → Option (Call E)
  | .list pairs _ => (s.queryVerdict pairs).value?.map .findAll
  | .get id _ | .updatePartial id _ => some (.findById id)
  | .create .. => none
  | .update id _ | .delete id => some (.contains id)

def looked (x : σ) (request : Request) : σ :=
  match s.lookup? request with
  | some call => (answer call x).2
  | none => x

/-- The change that a request is let through for: the call that makes it, or the message with which
the making of its entity crashes. -/
def change? (x : σ) : Request → Option (Except String (Call E))
  | .list .. | .get .. => none
  | .create body _ =>
    (s.documentVerdict .create s.resource.checkCreate body).value?.map fun document =>
      (s.resource.create document none).map .insert
  | .update id body =>
    (s.documentVerdict .update s.resource.checkUpdate body).value?.map fun document =>
      (s.resource.create document (some id)).map .update
  | .updatePartial id body =>
    (s.findVerdict answer .updatePartial id x).value?.bind fun existing =>
      (s.documentVerdict .updatePartial s.resource.checkPartial body).value?.map fun document =>
        (s.resource.merge existing document).map .updatePartial
  | .delete id => some (.ok (.delete id))

end Service

def Reply.void : Reply α → Reply Unit
  | .returned _ => .returned ()
  | .failed failure => .failed failure
  | .crashed message => .crashed message

namespace Work

def void (w : Work E σ α) : Work E σ Unit := ⟨fun x => ((w.act x).1.void, (w.act x).2), w.calls⟩

/-- The reply to a change as the reply of work. -/
def changed : (call : Call E) → Reply call.Result → Reply Unit
  | .delete _, reply => removed reply
  | _, reply => reply.void

/-- The calls of a change: one, or none if the making of the entity crashes. -/
def changeCalls : Except String (Call E) → List (Call E)
  | .ok call => [call]
  | .error _ => []

def ofChange (answer : Script.Answerer E σ) (change : Except String (Call E)) : Work E σ Unit where
  act x :=
    match change with
    | .ok call => (changed call (answer call x).1, (answer call x).2)
    | .error message => (.crashed message, x)
  calls := changeCalls change

theorem ofChange_insert (answer : Script.Answerer E σ) (made : Except String E) :
    ofChange answer (made.map .insert) = (insert answer made).void := by
  cases made <;> rfl

theorem ofChange_update (answer : Script.Answerer E σ) (made : Except String E) :
    ofChange answer (made.map .update) = (update answer made).void := by
  cases made <;> rfl

theorem ofChange_updatePartial (answer : Script.Answerer E σ) (made : Except String E) :
    ofChange answer (made.map .updatePartial) = (updatePartial answer made).void := by
  cases made <;> rfl

theorem removed_void (reply : Reply Bool) : (removed reply).void = removed reply := by
  cases reply with
  | returned yes => cases yes <;> rfl
  | failed failure => rfl
  | crashed message => rfl

theorem ofChange_delete (answer : Script.Answerer E σ) (id : Int) :
    ofChange answer (.ok (.delete id)) = (delete answer id).void := by
  simp only [void, delete, removed_void]
  rfl

end Work

/-! ## Passages -/

/-- A gate as a request meets it: what stops the request there, the calls, the state behind it. -/
structure Passage (E σ : Type) where
  stop? : Option Stop
  calls : List (Call E)
  state : σ

/-- The passage of a stage with a verdict. -/
def Passage.of (verdict : Verdict α) (x : σ) (calls : List (Call E)) : Passage E σ :=
  ⟨verdict.stop?, calls, x⟩

/-- The course through gates up to the first one that stops, and what is granted behind them. -/
def Course.through (grant : Grant) : σ → List (Passage E σ) → Course E σ (Except Problem Grant)
  | x, [] => .granted grant x
  | _, p :: ps =>
    match p.stop? with
    | some stop => .ofVerdict (.error stop) p.state p.calls
    | none => (through grant p.state ps).after p.calls

def Course.Follows (c : Course E σ (Except Problem Grant)) (x : σ) (ps : List (Passage E σ)) :
    Prop :=
  ∃ grant, c = .through grant x ps

namespace Course

theorem follows_nil (grant : Grant) (x : σ) : (granted grant x : Course E σ _).Follows x [] :=
  ⟨grant, rfl⟩

/-- A stage that goes on goes through its gate. -/
theorem follows_cons {verdict : Verdict α} {x y : σ} {calls : List (Call E)} {p : Passage E σ}
    {next : α → σ → Course E σ (Except Problem Grant)} {ps : List (Passage E σ)}
    (hp : p = .of verdict y calls) (h : ∀ a, verdict = .ok a → (next a y).Follows y ps) :
    ((ofVerdict verdict y calls).proceed next).Follows x (p :: ps) := by
  subst hp
  cases verdict with
  | error stop => exact ⟨.noContent, ofVerdict_proceed_stop stop y calls next⟩
  | ok a =>
    obtain ⟨grant, hgrant⟩ := h a rfl
    refine ⟨grant, ?_⟩
    rw [ofVerdict_proceed_ok, hgrant]
    rfl

/-- A gate that lets everything through need not be met. -/
theorem follows_skip {c : Course E σ (Except Problem Grant)} {x : σ} {p : Passage E σ}
    {ps : List (Passage E σ)} (hp : p = ⟨none, [], x⟩) (h : c.Follows x ps) :
    c.Follows x (p :: ps) := by
  subst hp
  exact h

/-! ## What a course through gates comes to -/

/-- How a request ends, from what stops it and from what it is granted if nothing does. -/
def ending (grant : Grant) : Option Stop → Except String (Except Problem Grant)
  | some stop => Verdict.outcome (.error stop)
  | none => .ok (.ok grant)

theorem outcome_through (grant : Grant) (x : σ) (ps : List (Passage E σ)) :
    (through grant x ps).outcome = ending grant (ps.findSome? Passage.stop?) := by
  induction ps generalizing x with
  | nil => rfl
  | cons p ps ih =>
    rw [through, List.findSome?_cons]
    cases p.stop? with
    | some stop => rfl
    | none => exact ih p.state

/-- A course leaves behind the state of one of its passages, or the one it began with. -/
theorem state_through {I : σ → Prop} {x : σ} {ps : List (Passage E σ)} (hx : I x)
    (h : ∀ p ∈ ps, I p.state) (grant : Grant) : I (through grant x ps).state := by
  induction ps generalizing x with
  | nil => exact hx
  | cons p ps ih =>
    have hp : I p.state := h p (List.mem_cons_self ..)
    rw [through]
    cases p.stop? with
    | some stop => exact hp
    | none => exact ih hp fun q hq => h q (List.mem_cons_of_mem _ hq)

/-- What the gates behind some others leave matters only if those others are all passed. -/
theorem state_through_append {I : σ → Prop} {x : σ} {front back : List (Passage E σ)} (hx : I x)
    (hfront : ∀ p ∈ front, I p.state)
    (hback : (∀ p ∈ front, p.stop? = none) → ∀ p ∈ back, I p.state) (grant : Grant) :
    I (through grant x (front ++ back)).state := by
  induction front generalizing x with
  | nil => exact state_through hx (hback fun p hp => absurd hp List.not_mem_nil) grant
  | cons p front ih =>
    have hp : I p.state := hfront p (List.mem_cons_self ..)
    rw [List.cons_append, through]
    cases hstop : p.stop? with
    | some stop => exact hp
    | none =>
      refine ih hp (fun q hq => hfront q (List.mem_cons_of_mem _ hq)) fun hpassed => ?_
      exact hback (List.forall_mem_cons.mpr ⟨hstop, hpassed⟩)

/-- Gates that are all passed make all their calls, whatever comes behind. -/
theorem calls_through_of_passed {front : List (Passage E σ)} (h : ∀ p ∈ front, p.stop? = none)
    (grant : Grant) (x : σ) (back : List (Passage E σ)) :
    ∃ y, (through grant x (front ++ back)).calls =
      front.flatMap Passage.calls ++ (through grant y back).calls := by
  induction front generalizing x with
  | nil => exact ⟨x, rfl⟩
  | cons p front ih =>
    have hp : p.stop? = none := h p (List.mem_cons_self ..)
    obtain ⟨y, hy⟩ := ih (fun q hq => h q (List.mem_cons_of_mem _ hq)) p.state
    refine ⟨y, ?_⟩
    rw [List.cons_append, through, hp]
    dsimp only
    rw [calls_after, hy, List.flatMap_cons, List.append_assoc]

/-- Gates behind one that stops make no calls. -/
theorem calls_through_of_stopped {front : List (Passage E σ)}
    (h : ¬ ∀ p ∈ front, p.stop? = none) (grant : Grant) (x : σ) (back : List (Passage E σ)) :
    (through grant x (front ++ back)).calls = (through grant x front).calls := by
  induction front generalizing x with
  | nil => exact absurd (fun p hp => absurd hp List.not_mem_nil) h
  | cons p front ih =>
    rw [List.cons_append, through, through]
    cases hp : p.stop? with
    | some stop => rfl
    | none =>
      have hrest : ¬ ∀ q ∈ front, q.stop? = none := fun hall =>
        h (List.forall_mem_cons.mpr ⟨hp, hall⟩)
      exact congrArg (p.calls ++ ·) (ih hrest p.state)

theorem calls_through_of_silent {ps : List (Passage E σ)} (h : ∀ p ∈ ps, p.calls = [])
    (grant : Grant) (x : σ) : (through grant x ps).calls = [] := by
  induction ps generalizing x with
  | nil => rfl
  | cons p ps ih =>
    have hp : p.calls = [] := h p (List.mem_cons_self ..)
    rw [through]
    cases p.stop? with
    | some stop => exact hp
    | none =>
      dsimp only
      rw [hp, after_nil]
      exact ih (fun q hq => h q (List.mem_cons_of_mem _ hq)) p.state

/-- Gates behind one that calls are silent, if they all are. -/
theorem calls_through_cons {p : Passage E σ} {ps : List (Passage E σ)}
    (h : ∀ q ∈ ps, q.calls = []) (grant : Grant) (x : σ) :
    (through grant x (p :: ps)).calls = p.calls := by
  rw [through]
  cases p.stop? with
  | some stop => rfl
  | none =>
    dsimp only
    rw [calls_after, calls_through_of_silent h, List.append_nil]

/-- Gates up to the first one that stops. -/
theorem through_stopped {front : List (Passage E σ)} {p : Passage E σ}
    {stop : Stop} (hfront : ∀ q ∈ front, q.stop? = none) (hp : p.stop? = some stop) (grant : Grant)
    (x : σ) (back : List (Passage E σ)) :
    through grant x (front ++ p :: back) =
      .ofVerdict (.error stop) p.state (front.flatMap Passage.calls ++ p.calls) := by
  induction front generalizing x with
  | nil =>
    rw [List.nil_append, through, hp]
    rfl
  | cons q front ih =>
    obtain ⟨hq, hrest⟩ := List.forall_mem_cons.mp hfront
    rw [List.cons_append, through, hq]
    dsimp only
    rw [ih hrest q.state, List.flatMap_cons, List.append_assoc]
    rfl

/-- Gates that are all passed. -/
theorem through_passed {ps : List (Passage E σ)} (h : ∀ q ∈ ps, q.stop? = none)
    (grant : Grant) (x : σ) :
    ∃ y, through grant x ps = ⟨.ok (.ok grant), y, ps.flatMap Passage.calls⟩ := by
  induction ps generalizing x with
  | nil => exact ⟨x, rfl⟩
  | cons q ps ih =>
    obtain ⟨hq, hrest⟩ := List.forall_mem_cons.mp h
    obtain ⟨y, hy⟩ := ih hrest q.state
    refine ⟨y, ?_⟩
    rw [through, hq]
    dsimp only
    rw [hy]
    rfl

end Course

/-! ## The gates of a service -/

namespace Service

variable (s : Service E D) (answer : Script.Answerer E σ)

/-- What stops a request at a gate, supposing that it gets there. -/
def stop? (x : σ) (request : Request) (gate : Gate) : Option Stop :=
  match gate, request with
  | .identifier, request =>
    request.id?.bind fun id => (identifierVerdict request.operation id).stop?
  | .policy, .delete id => (s.policyVerdict id).stop?
  | .query, .list pairs _ => (s.queryVerdict pairs).stop?
  | .existence, .list pairs _ =>
    (s.queryVerdict pairs).value?.bind fun query => (s.listVerdict answer query x).stop?
  | .existence, .get id _ => (s.findVerdict answer .get id x).stop?
  | .existence, .update id _ => (s.existenceVerdict answer .update id x).stop?
  | .existence, .updatePartial id _ => (s.findVerdict answer .updatePartial id x).stop?
  | .existence, .delete id => (s.existenceVerdict answer .delete id x).stop?
  | .document, .create body _ =>
    (s.documentVerdict .create s.resource.checkCreate body).stop?
  | .document, .update _ body =>
    (s.documentVerdict .update s.resource.checkUpdate body).stop?
  | .document, .updatePartial _ body =>
    (s.documentVerdict .updatePartial s.resource.checkPartial body).stop?
  | .agreement, .update id body =>
    (s.documentVerdict .update s.resource.checkUpdate body).value?.bind fun document =>
      (s.agreementVerdict .update id document).stop?
  | .agreement, .updatePartial id body =>
    (s.documentVerdict .updatePartial s.resource.checkPartial body).value?.bind fun document =>
      (s.agreementVerdict .updatePartial id document).stop?
  | .transaction, request =>
    (s.change? answer x request).bind fun change =>
      (s.transactVerdict answer request.operation request.id? (.ofChange answer change)
        (s.looked answer x request)).stop?
  | .answer, .list pairs accept =>
    (s.queryVerdict pairs).value?.bind fun query =>
      (s.listVerdict answer query x).value?.bind fun entities =>
        (s.showAll .list accept (entities.map s.resource.present)).stop?
  | .answer, .get id accept =>
    (s.findVerdict answer .get id x).value?.bind fun entity =>
      (s.showOne .get accept (s.resource.present entity)).stop?
  | .answer, .create body accept =>
    (s.documentVerdict .create s.resource.checkCreate body).value?.bind fun document =>
      (s.transactVerdict answer .create none
          (.insert answer (s.resource.create document none)) x).value?.bind fun saved =>
        (s.showOne .create accept (s.resource.present saved)).stop?
  | _, _ => none

def gateCalls (x : σ) (request : Request) : Gate → List (Call E)
  | .existence => (s.lookup? request).toList
  | .transaction =>
    match s.change? answer x request with
    | some change => transactCalls answer (.ofChange answer change) (s.looked answer x request)
    | none => []
  | _ => []

def gateState (x : σ) (request : Request) : Gate → σ
  | .identifier | .policy | .query => x
  | .existence | .document | .agreement => s.looked answer x request
  | .transaction | .answer =>
    match s.change? answer x request with
    | some change => transactState answer (.ofChange answer change) (s.looked answer x request)
    | none => s.looked answer x request

def passage (x : σ) (request : Request) (gate : Gate) : Passage E σ :=
  ⟨s.stop? answer x request gate, s.gateCalls answer x request gate,
    s.gateState answer x request gate⟩

theorem passed_iff {x : σ} {request : Request} (gates : List Gate) :
    (∀ p ∈ gates.map (s.passage answer x request), p.stop? = none) ↔
      ∀ gate ∈ gates, s.stop? answer x request gate = none :=
  List.forall_mem_map

end Service

end ResourceApi
