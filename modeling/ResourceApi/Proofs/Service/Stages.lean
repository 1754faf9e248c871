import ResourceApi.Proofs.Scope

/-!
# The stages of a request, one by one

What each stage of a request comes to, as a verdict that needs no script: either a value to go on
with, or what stops the request there. The course of a stage is its verdict together with the state
it leaves behind and the calls it makes.

## Main definitions

- `Stop`, `Verdict` — what stops a request, and what a stage comes to
- `Course.ofVerdict` — the course of a stage with a given verdict
- `Service.judge` — the verdict of a call
- `Work` — what a transaction is opened for
- `Service.transactVerdict`, `Service.transactState`, `Service.transactCalls` — what a transaction
  comes to
-/

namespace ResourceApi

variable {E D σ α β : Type}

/-- What stops a request. -/
inductive Stop where
  | refused (problem : Problem)
  | crashed (message : String)

/-- What a stage comes to: a value to go on with, or what stops the request. -/
abbrev Verdict (α : Type) := Except Stop α

/-- What stops a request at a stage, if anything does. -/
def Verdict.stop? : Verdict α → Option Stop
  | .ok _ => none
  | .error stop => some stop

/-- The outcome of a stage with a verdict. -/
def Verdict.outcome : Verdict α → Except String (Except Problem α)
  | .ok a => .ok (.ok a)
  | .error (.refused problem) => .ok (.error problem)
  | .error (.crashed message) => .error message

/-- The course of a stage with a verdict. -/
def Course.ofVerdict (verdict : Verdict α) (s : σ) (calls : List (Call E)) :
    Course E σ (Except Problem α) :=
  ⟨verdict.outcome, s, calls⟩

theorem Course.ofVerdict_proceed_ok (a : α) (s : σ) (calls : List (Call E))
    (next : α → σ → Course E σ (Except Problem β)) :
    (Course.ofVerdict (.ok a) s calls).proceed next = (next a s).after calls := rfl

theorem Course.ofVerdict_proceed_stop (stop : Stop) (s : σ) (calls : List (Call E))
    (next : α → σ → Course E σ (Except Problem β)) :
    (Course.ofVerdict (.error stop) s calls).proceed next =
      Course.ofVerdict (.error stop) s calls := by
  cases stop with
  | refused problem => exact Course.proceed_refused problem s calls next
  | crashed message => rfl

namespace Script.Answerer

variable (answer : Script.Answerer E σ)

def listed (query : Query) (x : σ) : Reply (List E) := (answer (.findAll query) x).1

def found (id : Int) (x : σ) : Reply (Option E) := (answer (.findById id) x).1

/-- The reply to the question whether an entity exists. -/
def known (id : Int) (x : σ) : Reply Bool := (answer (.contains id) x).1

def insert (e : E) (x : σ) : Reply E × σ := answer (.insert e) x

def update (e : E) (x : σ) : Reply E × σ := answer (.update e) x

/-- An entity is replaced by a merged one. -/
def updatePartial (e : E) (x : σ) : Reply E × σ := answer (.updatePartial e) x

def delete (id : Int) (x : σ) : Reply Bool × σ := answer (.delete id) x

end Script.Answerer

namespace Service

variable (s : Service E D) (answer : Script.Answerer E σ)

@[simp] theorem course_note (level : Level) (message : String) (data : List (String × Datum))
    (x : σ) : Stage.course answer (s.note level message data) x = ⟨.ok (.ok ()), x, []⟩ := rfl

/-! ## Calls -/

/-- The verdict of a call: a failure is a problem inside the service. -/
def judge (operation : Operation) (id : Option Int) : Reply α → Verdict α
  | .returned value => .ok value
  | .failed failure => .error (.refused (s.internal operation id failure.text))
  | .crashed message => .error (.crashed message)

theorem course_guarded (operation : Operation) (id : Option Int)
    (script : Script E (Except Failure α)) (x : σ) :
    Stage.course answer (s.guarded operation id script) x =
      .ofVerdict (s.judge operation id (.ofOutcome (script.course answer x).outcome))
        (script.course answer x).state (script.course answer x).calls := by
  rw [guarded, Stage.course_bind, Stage.course_lift]
  obtain ⟨outcome, y, calls⟩ := script.course answer x
  cases outcome with
  | error message => rfl
  | ok result =>
    cases result <;>
      simp [Course.ofVerdict, Verdict.outcome, judge, Reply.ofOutcome]

theorem course_guarded_call (operation : Operation) (id : Option Int) (c : Call E) (x : σ) :
    Stage.course answer (s.guarded operation id (Script.call c)) x =
      .ofVerdict (s.judge operation id (answer c x).1) (answer c x).2 [c] := by
  rw [course_guarded, Script.course_call, Reply.ofOutcome_outcome]

/-! ## Checks that call nothing -/

def identifierVerdict (operation : Operation) (id : Int) : Verdict Unit :=
  if id ≤ 0 then .error (.refused (.invalidIdentifier operation (Number.decimal id))) else .ok ()

theorem course_checkIdentifier (operation : Operation) (id : Int) (x : σ) :
    Stage.course answer (s.checkIdentifier operation id) x =
      .ofVerdict (identifierVerdict operation id) x [] := by
  unfold checkIdentifier identifierVerdict
  split <;> rfl

/-- Entities have to be deletable, all of them and this one. -/
def policyVerdict (id : Int) : Verdict Unit :=
  if s.resource.deletionAllowed then
    if s.resource.deletable id then .ok ()
    else .error (.refused
      ((Problem.conflict .delete inUse).about s.resource.name (Number.decimal id)))
  else .error (.refused
    (.methodNotAllowed .delete ("Deleting " ++ s.resource.name ++ " is not allowed")))

theorem course_checkPolicy (id : Int) (x : σ) :
    Stage.course answer (s.checkPolicy id) x = .ofVerdict (s.policyVerdict id) x [] := by
  unfold checkPolicy policyVerdict
  split
  · split <;> rfl
  · rfl

/-- The document that a body consists of, if it is one and keeps the rules. -/
def documentVerdict (operation : Operation) (rules : D → Except Violations Unit) (body : Bytes) :
    Verdict D :=
  match s.resource.read body with
  | none => .error (.refused (.invalidBody operation unreadable))
  | some document =>
    match rules document with
    | .error violations => .error (.refused (.validationFailed operation violations))
    | .ok _ => .ok document

theorem documentVerdict_eq_ok_iff {operation : Operation} {rules : D → Except Violations Unit}
    {body : Bytes} {document : D} :
    s.documentVerdict operation rules body = .ok document ↔
      s.resource.read body = some document ∧ rules document = .ok () := by
  unfold documentVerdict
  cases s.resource.read body with
  | none => simp
  | some found =>
    cases hrules : rules found with
    | error violations =>
      simp only [hrules]
      constructor
      · intro h
        cases h
      · rintro ⟨hfound, hok⟩
        obtain rfl := Option.some.inj hfound
        rw [hrules] at hok
        cases hok
    | ok _ =>
      simp only [hrules]
      constructor
      · intro h
        obtain rfl := Except.ok.inj h
        exact ⟨rfl, hrules⟩
      · rintro ⟨hfound, -⟩
        exact congrArg Except.ok (Option.some.inj hfound)

theorem course_bind (operation : Operation) (body : Bytes) (x : σ) :
    Stage.course answer (s.bind operation body) x =
      match s.resource.read body with
      | none => ⟨.ok (.error (.invalidBody operation unreadable)), x, []⟩
      | some document => ⟨.ok (.ok document), x, []⟩ := by
  unfold Service.bind
  cases s.resource.read body <;> rfl

theorem course_checkRules (operation : Operation) (id : Option Int)
    (verdict : Except Violations Unit) (x : σ) :
    Stage.course answer (s.checkRules operation id verdict) x =
      match verdict with
      | .error violations => ⟨.ok (.error (.validationFailed operation violations)), x, []⟩
      | .ok _ => ⟨.ok (.ok ()), x, []⟩ := by
  unfold checkRules
  cases verdict <;> rfl

/-- Reading a body and checking its rules are one stage of what follows. -/
theorem course_document (operation : Operation) (id : Option Int)
    (rules : D → Except Violations Unit) (body : Bytes) (x : σ) {next : D → Stage E β}
    {rest : D → σ → Course E σ (Except Problem β)}
    (hnext : ∀ document x, Stage.course answer (next document) x = rest document x) :
    Stage.course answer (s.bind operation body >>= fun document =>
        s.checkRules operation id (rules document) >>= fun _ => next document) x =
      (Course.ofVerdict (s.documentVerdict operation rules body) x []).proceed rest := by
  rw [Stage.course_bind, course_bind, documentVerdict]
  cases s.resource.read body with
  | none => rfl
  | some document =>
    -- The rules are checked in a stage of their own, which goes on with the same document.
    simp only [Course.proceed_ok, Course.after_nil, Stage.course_bind, course_checkRules]
    cases rules document with
    | error violations => rfl
    | ok _ => exact hnext document x

/-- An identifier that a document claims has to be the one of the path. -/
def agreementVerdict (operation : Operation) (id : Int) (document : D) : Verdict Unit :=
  match s.resource.claimedId document with
  | none => .ok ()
  | some claimed =>
    if claimed = id then .ok ()
    else .error (.refused (.invalidBody operation
      ("Body id " ++ Number.decimal claimed ++ " does not match path id " ++ Number.decimal id)))

theorem course_checkAgreement (operation : Operation) (id : Int) (document : D) (x : σ) :
    Stage.course answer (s.checkAgreement operation id document) x =
      .ofVerdict (s.agreementVerdict operation id document) x [] := by
  unfold checkAgreement agreementVerdict
  cases s.resource.claimedId document with
  | none => rfl
  | some claimed =>
    dsimp only
    split <;> rfl

/-- The query that the pairs of a list request build. -/
def queryVerdict (pairs : List (String × String)) : Verdict Query :=
  match s.resource.query s.resource.schema s.options.limits pairs with
  | .error e => .error (.refused (.ofFilterError e))
  | .ok query => .ok query

/-- A body in the representation that a client prefers. Only JSON can fail. -/
def renderVerdict (operation : Operation) (accept : Option String)
    (json : Except String Json.Node) (xml : String) : Verdict Rendering :=
  match Representation.negotiate accept with
  | .xml => .ok ⟨.xml, Text.utf8 xml⟩
  | .json =>
    match json with
    | .ok node => .ok ⟨.json, node.bytes⟩
    | .error reason => .error (.refused (s.internal operation none reason))

theorem course_render (operation : Operation) (accept : Option String)
    (json : Except String Json.Node) (xml : String) (x : σ) :
    Stage.course answer (s.render operation accept json xml) x =
      .ofVerdict (s.renderVerdict operation accept json xml) x [] := by
  unfold render renderVerdict
  cases Representation.negotiate accept with
  | xml => rfl
  | json => cases json <;> rfl

def showOne (operation : Operation) (accept : Option String) (document : D) : Verdict Rendering :=
  s.renderVerdict operation accept (s.resource.json document) (s.resource.xml document)

def showAll (operation : Operation) (accept : Option String) (documents : List D) :
    Verdict Rendering :=
  s.renderVerdict operation accept (Json.Node.array <$> documents.mapM s.resource.json)
    (s.resource.xmlList documents)

/-! ## Look-ups -/

def listVerdict (query : Query) (x : σ) : Verdict (List E) :=
  s.judge .list none (answer.listed query x)

theorem course_findAll (query : Query) (x : σ) :
    Stage.course answer (s.guarded (α := List E) .list none (Script.call (.findAll query))) x =
      .ofVerdict (s.listVerdict answer query x) (answer (.findAll query) x).2 [.findAll query] :=
  s.course_guarded_call answer .list none (.findAll query) x

def findVerdict (operation : Operation) (id : Int) (x : σ) : Verdict E :=
  match s.judge operation (some id) (answer.found id x) with
  | .ok (some entity) => .ok entity
  | .ok none => .error (.refused (s.missing operation id))
  | .error stop => .error stop

theorem course_find (operation : Operation) (id : Int) (x : σ) :
    Stage.course answer (s.find operation id) x =
      .ofVerdict (s.findVerdict answer operation id x) (answer (.findById id) x).2
        [.findById id] := by
  -- The type of the reply depends on the call, so its course is not found by rewriting.
  refine (Stage.course_bind answer _ _ x).trans ?_
  refine (congrArg (Course.proceed · _)
    (s.course_guarded_call answer operation (some id) (.findById id) x)).trans ?_
  change (Course.ofVerdict (s.judge operation (some id) (answer.found id x)) _ _).proceed _ = _
  unfold findVerdict
  cases s.judge operation (some id) (answer.found id x) with
  | error stop => exact Course.ofVerdict_proceed_stop _ _ _ _
  | ok found => cases found <;> rfl

def existenceVerdict (operation : Operation) (id : Int) (x : σ) : Verdict Unit :=
  match s.judge operation (some id) (answer.known id x) with
  | .ok true => .ok ()
  | .ok false => .error (.refused (s.missing operation id))
  | .error stop => .error stop

theorem course_checkExistence (operation : Operation) (id : Int) (x : σ) :
    Stage.course answer (s.checkExistence operation id) x =
      .ofVerdict (s.existenceVerdict answer operation id x) (answer (.contains id) x).2
        [.contains id] := by
  refine (Stage.course_bind answer _ _ x).trans ?_
  refine (congrArg (Course.proceed · _)
    (s.course_guarded_call answer operation (some id) (.contains id) x)).trans ?_
  change (Course.ofVerdict (s.judge operation (some id) (answer.known id x)) _ _).proceed _ = _
  unfold existenceVerdict
  cases s.judge operation (some id) (answer.known id x) with
  | error stop => exact Course.ofVerdict_proceed_stop _ _ _ _
  | ok known => cases known <;> rfl

/-! ## Work -/

end Service

/-- What a transaction is opened for: the reply to all of it, the state behind it, its calls. -/
structure Work (E σ α : Type) where
  act : σ → Reply α × σ
  calls : List (Call E)

namespace Work

variable (answer : Script.Answerer E σ)

def Describes (w : Work E σ α) (script : Script E (Except Failure α)) : Prop :=
  ∀ x, script.course answer x = ⟨(w.act x).1.outcome, (w.act x).2, w.calls⟩

/-- Makes an entity and hands it over. The crash of the making is the crash of the work. -/
def save (made : Except String E) (call : E → Call E) (act : E → σ → Reply E × σ) :
    Work E σ E where
  act x :=
    match made with
    | .ok e => act e x
    | .error message => (.crashed message, x)
  calls :=
    match made with
    | .ok e => [call e]
    | .error _ => []

def insert (made : Except String E) : Work E σ E := save made .insert answer.insert

/-- Makes an entity and replaces another one by it. -/
def update (made : Except String E) : Work E σ E := save made .update answer.update

def updatePartial (made : Except String E) : Work E σ E :=
  save made .updatePartial answer.updatePartial

/-- The reply of a removal as the reply of work: it is a failure if nothing is removed. -/
def removed : Reply Bool → Reply Unit
  | .returned true => .returned ()
  | .returned false => .failed (.of .delete .other Service.nothingRemoved)
  | .failed failure => .failed failure
  | .crashed message => .crashed message

def delete (id : Int) : Work E σ Unit where
  act x := (removed (answer.delete id x).1, (answer.delete id x).2)
  calls := [.delete id]

theorem save_describes {made : Except String E} {script : E → Script E (Except Failure E)}
    {act : E → σ → Reply E × σ} {call : E → Call E}
    (h : ∀ e x, (script e).course answer x = ⟨(act e x).1.outcome, (act e x).2, [call e]⟩) :
    (save made call act).Describes answer (Service.withEntity made script) := by
  intro x
  cases made with
  | ok e => exact h e x
  | error message => rfl

theorem insert_describes (made : Except String E) :
    (insert answer made).Describes answer
      (Service.withEntity made fun e => Script.call (.insert e)) :=
  save_describes answer fun e x => Script.course_call answer (.insert e) x

theorem update_describes (made : Except String E) :
    (update answer made).Describes answer
      (Service.withEntity made fun e => Script.call (.update e)) :=
  save_describes answer fun e x => Script.course_call answer (.update e) x

theorem updatePartial_describes (made : Except String E) :
    (updatePartial answer made).Describes answer
      (Service.withEntity made fun e => Script.call (.updatePartial e)) :=
  save_describes answer fun e x => Script.course_call answer (.updatePartial e) x

theorem delete_describes (id : Int) :
    (delete answer id).Describes answer (Service.remove id) := by
  intro x
  refine (Script.course_bind answer _ _ x).trans ?_
  refine (congrArg (Course.andThen · _) (Script.course_call answer (.delete id) x)).trans ?_
  change Course.andThen ⟨(answer.delete id x).1.outcome, (answer.delete id x).2, _⟩ _ =
    ⟨(removed (answer.delete id x).1).outcome, (answer.delete id x).2, [.delete id]⟩
  cases (answer.delete id x).1 with
  | returned yes => cases yes <;> rfl
  | failed failure => rfl
  | crashed message => rfl

end Work

/-! ## Transactions -/

namespace Service

variable (s : Service E D) (answer : Script.Answerer E σ)

/-- The verdict of a transaction: it has to open, its work has to be done, and its commit has to
return. -/
def transactVerdict (operation : Operation) (id : Option Int) (w : Work E σ α) (x : σ) :
    Verdict α := do
  let _ ← s.judge operation id (answer .begin x).1
  let (reply, y) := w.act (answer .begin x).2
  let value ← s.judge operation id reply
  let _ ← s.judge operation id (answer .commit y).1
  .ok value

def transactCalls (w : Work E σ α) (x : σ) : List (Call E) :=
  match (answer .begin x).1 with
  | .returned _ =>
    let (reply, y) := w.act (answer .begin x).2
    .begin :: w.calls ++ Scope.closing (match reply with
      | .returned _ => some (answer .commit y).1
      | _ => none)
  | _ => [.begin]

/-- The state behind the end of a transaction, from what its work has come to. -/
def endState (done : Reply α × σ) : σ :=
  match done.1 with
  | .returned _ =>
    match (answer .commit done.2).1 with
    | .returned _ => (answer .release (answer .commit done.2).2).2
    | _ => Scope.settled answer (answer .commit done.2).2
  | _ => Scope.settled answer done.2

def transactState (w : Work E σ α) (x : σ) : σ :=
  match (answer .begin x).1 with
  | .returned _ => endState answer (w.act (answer .begin x).2)
  | _ => (answer .begin x).2

def transactCourse (operation : Operation) (id : Option Int) (w : Work E σ α) (x : σ) :
    Course E σ (Except Problem α) :=
  .ofVerdict (s.transactVerdict answer operation id w x) (transactState answer w x)
    (transactCalls answer w x)

variable {answer}

theorem course_transact (h : Calm answer) {script : Script E (Except Failure α)}
    {w : Work E σ α} (hw : w.Describes answer script) (operation : Operation) (id : Option Int)
    (x : σ) :
    Stage.course answer (s.transact operation id script) x =
      s.transactCourse answer operation id w x := by
  rw [transact, Stage.course_bind, course_guarded_call, transactCourse, transactVerdict,
    transactCalls, transactState, endState]
  cases (answer .begin x).1 with
  -- Without a transaction there is neither work nor an end of it.
  | failed failure => exact Course.proceed_refused _ _ _ _
  | crashed message => rfl
  | returned value =>
    dsimp only [judge]
    rw [Course.ofVerdict_proceed_ok, course_guarded, Scope.run,
      Scope.course_runFor h, hw]
    cases (w.act (answer .begin x).2).1 with
    | failed failure => rfl
    | crashed message => rfl
    | returned value => cases (answer .commit (w.act (answer .begin x).2).2).1 <;> rfl

end Service

end ResourceApi
