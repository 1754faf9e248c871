import ResourceApi.Proofs.Service.Gates

/-!
# Requests go through their gates

The course of every request is the course through its gates, one request after the other. The
transaction of a request is met as work without a value, since what it returns matters only to the
answer.

## Main results

- `Service.passage_transaction` — the passage of a transaction from the work done in it
- `Service.stages_follow` — every request goes through all the gates in their order
-/

namespace ResourceApi

variable {E D σ α : Type}

namespace Service

variable (s : Service E D) {answer : Script.Answerer E σ}

/-! ## Transactions without their values -/

theorem transactState_void (w : Work E σ α) (x : σ) :
    transactState answer w.void x = transactState answer w x := by
  unfold transactState endState
  cases (answer .begin x).1 with
  | returned _ =>
    dsimp only [Work.void]
    cases (w.act (answer .begin x).2).1 <;> rfl
  | failed failure => rfl
  | crashed message => rfl

theorem transactCalls_void (w : Work E σ α) (x : σ) :
    transactCalls answer w.void x = transactCalls answer w x := by
  unfold transactCalls
  cases (answer .begin x).1 with
  | returned _ =>
    dsimp only [Work.void]
    cases (w.act (answer .begin x).2).1 <;> rfl
  | failed failure => rfl
  | crashed message => rfl

theorem transactVerdict_void (operation : Operation) (id : Option Int) (w : Work E σ α) (x : σ) :
    (s.transactVerdict answer operation id w.void x).stop? =
      (s.transactVerdict answer operation id w x).stop? := by
  unfold transactVerdict
  cases s.judge operation id (answer .begin x).1 with
  | error stop => rfl
  | ok _ =>
    dsimp only [Work.void, bind, Except.bind]
    cases (w.act (answer .begin x).2).1 with
    | failed failure => rfl
    | crashed message => rfl
    | returned value =>
      cases (answer .commit (w.act (answer .begin x).2).2).1 <;> rfl

variable (answer)

/-- The passage of the transaction that some work is done in. -/
theorem passage_transaction {x : σ} {request : Request} {change : Except String (Call E)}
    {w : Work E σ α} (hchange : s.change? answer x request = some change)
    (hw : Work.ofChange answer change = w.void) :
    s.passage answer x request .transaction =
      .of (s.transactVerdict answer request.operation request.id? w (s.looked answer x request))
        (transactState answer w (s.looked answer x request))
        (transactCalls answer w (s.looked answer x request)) := by
  simp only [passage, stop?, gateCalls, gateState, hchange, hw, Option.bind_some,
    transactState_void, transactCalls_void, transactVerdict_void, Passage.of]

theorem gateState_answer {x : σ} {request : Request} {change : Except String (Call E)}
    {w : Work E σ α} (hchange : s.change? answer x request = some change)
    (hw : Work.ofChange answer change = w.void) :
    s.gateState answer x request .answer =
      transactState answer w (s.looked answer x request) := by
  simp only [gateState, hchange, hw, transactState_void]

/-- The way from the transaction on, where nothing is rendered. -/
theorem follows_transaction {x : σ} {request : Request} {change : Except String (Call E)}
    {w : Work E σ α} (hchange : s.change? answer x request = some change)
    (hw : Work.ofChange answer change = w.void)
    (hanswer : s.stop? answer x request .answer = none) :
    ((s.transactCourse answer request.operation request.id? w
        (s.looked answer x request)).proceed fun _ y => .granted .noContent y).Follows
      (s.looked answer x request)
      [s.passage answer x request .transaction, s.passage answer x request .answer] := by
  refine Course.follows_cons (s.passage_transaction answer hchange hw) fun _ _ => ?_
  refine Course.follows_skip ?_ (Course.follows_nil _ _)
  rw [passage, hanswer, s.gateState_answer answer hchange hw]
  rfl

/-! ## Each request goes through its gates -/

theorem follows_list (pairs : List (String × String)) (accept : Option String) (x : σ) :
    (Stage.course answer (s.list pairs accept) x).Follows x
      (Gate.all.map (s.passage answer x (.list pairs accept))) := by
  rw [course_list]
  -- A list has no identifier and is under no policy.
  refine Course.follows_skip rfl (Course.follows_skip rfl ?_)
  refine Course.follows_cons rfl fun query hquery => ?_
  have hlookup : s.lookup? (.list pairs accept) = some (.findAll query) := by
    simp only [lookup?, hquery, Verdict.value?, Option.map_some]
  have hexistence : s.passage answer x (.list pairs accept) .existence =
      .of (s.listVerdict answer query x) (answer (.findAll query) x).2 [.findAll query] := by
    simp only [passage, stop?, gateCalls, gateState, looked, hlookup, hquery, Verdict.value?,
      Option.bind_some, Option.toList, Passage.of]
  refine Course.follows_cons hexistence fun entities hentities => ?_
  have hlooked : s.looked answer x (.list pairs accept) = (answer (.findAll query) x).2 := by
    simp only [looked, hlookup]
  rw [← hlooked]
  refine Course.follows_skip rfl (Course.follows_skip rfl (Course.follows_skip rfl ?_))
  refine Course.follows_cons ?_ fun _ _ => Course.follows_nil _ _
  simp only [passage, stop?, hquery, hentities, Verdict.value?, Option.bind_some]
  rfl

theorem follows_get (id : Int) (accept : Option String) (x : σ) :
    (Stage.course answer (s.get id accept) x).Follows x
      (Gate.all.map (s.passage answer x (.get id accept))) := by
  rw [course_get]
  refine Course.follows_cons rfl fun _ _ => ?_
  refine Course.follows_skip rfl (Course.follows_skip rfl ?_)
  refine Course.follows_cons rfl fun entity hentity => ?_
  refine Course.follows_skip rfl (Course.follows_skip rfl (Course.follows_skip rfl ?_))
  refine Course.follows_cons ?_ fun _ _ => Course.follows_nil _ _
  simp only [passage, stop?, hentity, Verdict.value?, Option.bind_some]
  rfl

theorem follows_create (h : Calm answer) (body : Bytes) (accept : Option String) (x : σ) :
    (Stage.course answer (s.create body accept) x).Follows x
      (Gate.all.map (s.passage answer x (.create body accept))) := by
  rw [course_create s h]
  -- The first gate on the way of a new entity is its document: nothing has to be there before.
  refine Course.follows_skip rfl (Course.follows_skip rfl (Course.follows_skip rfl ?_))
  refine Course.follows_skip rfl ?_
  refine Course.follows_cons rfl fun document hdocument => ?_
  refine Course.follows_skip rfl ?_
  have hchange : s.change? answer x (.create body accept) =
      some ((s.resource.create document none).map .insert) := by
    simp only [change?, hdocument, Verdict.value?, Option.map_some]
  have hw := Work.ofChange_insert answer (s.resource.create document none)
  refine Course.follows_cons (s.passage_transaction answer hchange hw) fun saved hsaved => ?_
  refine Course.follows_cons ?_ fun _ _ => Course.follows_nil _ _
  -- The answer shows what the transaction has returned, so here its value is needed after all.
  rw [passage, s.gateState_answer answer hchange hw]
  simp only [stop?, hdocument, hsaved, Verdict.value?, Option.bind_some]
  rfl

theorem follows_update (h : Calm answer) (id : Int) (body : Bytes) (x : σ) :
    (Stage.course answer (s.update id body) x).Follows x
      (Gate.all.map (s.passage answer x (.update id body))) := by
  rw [course_update s h]
  refine Course.follows_cons rfl fun _ _ => ?_
  refine Course.follows_skip rfl (Course.follows_skip rfl ?_)
  refine Course.follows_cons rfl fun _ _ => ?_
  refine Course.follows_cons rfl fun document hdocument => ?_
  have hagreement : s.passage answer x (.update id body) .agreement =
      .of (s.agreementVerdict .update id document) (answer (.contains id) x).2 [] := by
    simp only [passage, stop?, hdocument, Verdict.value?, Option.bind_some]
    rfl
  refine Course.follows_cons hagreement fun _ _ => ?_
  have hchange : s.change? answer x (.update id body) =
      some ((s.resource.create document (some id)).map .update) := by
    simp only [change?, hdocument, Verdict.value?, Option.map_some]
  exact s.follows_transaction answer hchange (Work.ofChange_update answer _) rfl

theorem follows_updatePartial (h : Calm answer) (id : Int) (body : Bytes) (x : σ) :
    (Stage.course answer (s.updatePartial id body) x).Follows x
      (Gate.all.map (s.passage answer x (.updatePartial id body))) := by
  rw [course_updatePartial s h]
  refine Course.follows_cons rfl fun _ _ => ?_
  refine Course.follows_skip rfl (Course.follows_skip rfl ?_)
  refine Course.follows_cons rfl fun existing hexisting => ?_
  refine Course.follows_cons rfl fun document hdocument => ?_
  have hagreement : s.passage answer x (.updatePartial id body) .agreement =
      .of (s.agreementVerdict .updatePartial id document) (answer (.findById id) x).2 [] := by
    simp only [passage, stop?, hdocument, Verdict.value?, Option.bind_some]
    rfl
  refine Course.follows_cons hagreement fun _ _ => ?_
  -- Unlike the other changes this one is made from the entity that the look-up has found.
  have hchange : s.change? answer x (.updatePartial id body) =
      some ((s.resource.merge existing document).map .updatePartial) := by
    simp only [change?, hexisting, hdocument, Verdict.value?, Option.bind_some, Option.map_some]
  exact s.follows_transaction answer hchange (Work.ofChange_updatePartial answer _) rfl

theorem follows_delete (h : Calm answer) (id : Int) (x : σ) :
    (Stage.course answer (s.delete id) x).Follows x
      (Gate.all.map (s.passage answer x (.delete id))) := by
  rw [course_delete s h]
  refine Course.follows_cons rfl fun _ _ => ?_
  refine Course.follows_cons rfl fun _ _ => ?_
  refine Course.follows_skip rfl ?_
  refine Course.follows_cons rfl fun _ _ => ?_
  -- There is no body to read.
  refine Course.follows_skip rfl (Course.follows_skip rfl ?_)
  have hchange : s.change? answer x (.delete id) = some (.ok (.delete id)) := rfl
  exact s.follows_transaction answer hchange (Work.ofChange_delete answer id) rfl

/-- **Every request goes through its gates**, in their order and up to the first one that stops. -/
theorem stages_follow (h : Calm answer) (request : Request) (x : σ) :
    (Stage.course answer (s.stages request) x).Follows x
      (Gate.all.map (s.passage answer x request)) := by
  cases request with
  | list pairs accept => exact s.follows_list answer pairs accept x
  | get id accept => exact s.follows_get answer id accept x
  | create body accept => exact s.follows_create answer h body accept x
  | update id body => exact s.follows_update answer h id body x
  | updatePartial id body => exact s.follows_updatePartial answer h id body x
  | delete id => exact s.follows_delete answer h id x

end Service

end ResourceApi
