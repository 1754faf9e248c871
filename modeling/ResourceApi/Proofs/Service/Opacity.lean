import ResourceApi.Proofs.Likeness
import ResourceApi.Resource.Service

/-!
# Requests over repositories with other words

Whatever words a failure inside the service comes with, whether they are those of the repository, of
a crash or of a document that cannot be written, they end up in the detail of a problem, which only
the log is told. So a silent service handles each request alike over repositories that fail and
crash at the same calls.

## Main definitions

- `Problem.Alike` — problems that differ at most in what only the log is told
- `Rewording` — other words for what goes wrong with a resource
- `Service.reworded` — a service with other words

## Main results

- `Problem.Alike.response_eq` — alike problems are shown alike
- `Service.alike_handle` — requests to a silent service, whatever words it and its repository use
-/

namespace ResourceApi

variable {E D α β γ δ : Type}

/-! ## Problems -/

/-- Problems that differ at most in what only the log is told. -/
def Problem.Alike (p q : Problem) : Prop := { p with detail := none } = { q with detail := none }

/-- What is shown of a problem says nothing of its detail. -/
theorem Problem.Alike.response_eq {p q : Problem} (h : p.Alike q) :
    Response.ofProblem p = Response.ofProblem q := by
  have hshown (p : Problem) : Response.ofProblem p = Response.ofProblem { p with detail := none } :=
    rfl
  rw [hshown p, hshown q, h]

/-! ## Stages -/

namespace Stage

open Script (alike_emit)

/-- Stages that differ at most in words, and refuse with problems that are shown alike. -/
def Alike (V : α → β → Prop) (stage : Stage E α) (stage' : Stage E β) : Prop :=
  Script.Alike (Outcome.Alike Problem.Alike V) stage.run stage'.run

variable {V : α → β → Prop} {W : γ → δ → Prop}

theorem Alike.pure {a : α} {b : β} (h : V a b) :
    Alike V (Pure.pure a : Stage E α) (Pure.pure b) := .done (.ok h)

theorem Alike.throw {p q : Problem} (h : p.Alike q) :
    Alike V (MonadExcept.throw p : Stage E α) (MonadExcept.throw q) := .done (.error h)

theorem Alike.lift {script : Script E α} {script' : Script E β}
    (h : Script.Alike V script script') :
    Alike V (ExceptT.lift script) (ExceptT.lift script') :=
  h.bind fun _ _ hab => .done (.ok hab)

/-- Alike stages that go on alike. -/
theorem Alike.bind {stage : Stage E α} {stage' : Stage E β} {next : α → Stage E γ}
    {next' : β → Stage E δ} (h : Alike V stage stage')
    (hnext : ∀ a b, V a b → Alike W (next a) (next' b)) :
    Alike W (stage >>= next) (stage' >>= next') := by
  refine Script.Alike.bind h fun result result' hresult => ?_
  cases hresult with
  | ok hab => exact hnext _ _ hab
  | error hproblem => exact .done (.error hproblem)

end Stage

/-! ## Other words -/

/-- Other words for what goes wrong with a resource: entities cannot be made and documents cannot be
written in the same cases. -/
structure Rewording (resource : Resource E D) where
  create : D → Option Int → Except String E
  merge : E → D → Except String E
  json : D → Except String Json.Node
  create_alike (document : D) (id : Option Int) :
    Outcome.Alike AnyWords Eq (resource.create document id) (create document id)
  merge_alike (e : E) (document : D) :
    Outcome.Alike AnyWords Eq (resource.merge e document) (merge e document)
  json_alike (document : D) : Outcome.Alike AnyWords Eq (resource.json document) (json document)

/-- The words that a function makes of the ones there are. -/
def Rewording.by (resource : Resource E D) (rephrase : String → String) : Rewording resource where
  create document id := (resource.create document id).mapError rephrase
  merge e document := (resource.merge e document).mapError rephrase
  json document := (resource.json document).mapError rephrase
  create_alike document id := Outcome.alike_mapError rephrase (resource.create document id)
  merge_alike e document := Outcome.alike_mapError rephrase (resource.merge e document)
  json_alike document := Outcome.alike_mapError rephrase (resource.json document)

def Resource.reworded (resource : Resource E D) (words : Rewording resource) : Resource E D :=
  { resource with create := words.create, merge := words.merge, json := words.json }

namespace Service

/-- A service with other words. -/
def reworded (s : Service E D) (words : Rewording s.resource) : Service E D :=
  { s with resource := s.resource.reworded words }

open Script (alike_call alike_emit)

variable {s : Service E D} (words : Rewording s.resource)

theorem alike_note (level : Level) (message : String) (data data' : List (String × Datum)) :
    Stage.Alike Eq (s.note (E := E) level message data)
      ((s.reworded words).note level message data') :=
  .lift (alike_emit _ _)

theorem alike_checkIdentifier (operation : Operation) (id : Int) :
    Stage.Alike Eq (s.checkIdentifier operation id)
      ((s.reworded words).checkIdentifier operation id) := by
  unfold checkIdentifier
  by_cases hid : id ≤ 0
  · rw [if_pos hid, if_pos hid]
    exact (alike_note words ..).bind fun _ _ _ => .throw rfl
  · rw [if_neg hid, if_neg hid]
    exact .pure rfl

theorem alike_checkPolicy (id : Int) :
    Stage.Alike Eq (s.checkPolicy id) ((s.reworded words).checkPolicy id) := by
  have hname : (s.reworded words).resource.name = s.resource.name := rfl
  have hallowed : (s.reworded words).resource.deletionAllowed = s.resource.deletionAllowed := rfl
  have hdeletable : (s.reworded words).resource.deletable = s.resource.deletable := rfl
  unfold checkPolicy
  rw [hname, hallowed, hdeletable]
  cases s.resource.deletionAllowed with
  | false => exact (alike_note words ..).bind fun _ _ _ => .throw rfl
  | true =>
    cases s.resource.deletable id with
    | false => exact (alike_note words ..).bind fun _ _ _ => .throw rfl
    | true => exact .pure rfl

theorem alike_bind (operation : Operation) (body : Bytes) :
    Stage.Alike Eq (s.bind operation body) ((s.reworded words).bind operation body) := by
  have hread : (s.reworded words).resource.read = s.resource.read := rfl
  unfold Service.bind
  rw [hread]
  cases s.resource.read body with
  | none => exact (alike_note words ..).bind fun _ _ _ => .throw rfl
  | some document => exact .pure rfl

theorem alike_checkRules (operation : Operation) (id : Option Int)
    (verdict : Except Violations Unit) :
    Stage.Alike Eq (s.checkRules operation id verdict)
      ((s.reworded words).checkRules operation id verdict) := by
  unfold checkRules
  cases verdict with
  | ok _ => exact .pure rfl
  | error violations => exact (alike_note words ..).bind fun _ _ _ => .throw rfl

theorem alike_checkAgreement (operation : Operation) (id : Int) (document : D) :
    Stage.Alike Eq (s.checkAgreement operation id document)
      ((s.reworded words).checkAgreement operation id document) := by
  have hclaimed : (s.reworded words).resource.claimedId = s.resource.claimedId := rfl
  unfold checkAgreement
  rw [hclaimed]
  cases s.resource.claimedId document with
  | none => exact .pure rfl
  | some claimed =>
    by_cases hsame : claimed = id
    · simp only [if_pos hsame]
      exact .pure rfl
    · simp only [if_neg hsame]
      exact (alike_note words ..).bind fun _ _ _ => .throw rfl

/-! ## Stages that may fail inside the service -/

section Silent

variable (hsilent : s.options.exposeFailures = false)
include hsilent

/-- A silent service says the same of every failure. -/
theorem alike_internal (operation : Operation) (id : Option Int) (detail detail' : String) :
    (s.internal operation id detail).Alike ((s.reworded words).internal operation id detail') := by
  have hsilent' : (s.reworded words).options.exposeFailures = false := hsilent
  unfold internal
  rw [hsilent, hsilent']
  cases id <;> rfl

theorem alike_guarded {V : α → β → Prop} (operation : Operation) (id : Option Int)
    {script : Script E (Except Failure α)} {script' : Script E (Except Failure β)}
    (h : Script.Alike (Outcome.Alike AnyWords V) script script') :
    Stage.Alike V (s.guarded operation id script)
      ((s.reworded words).guarded operation id script') := by
  refine (Stage.Alike.lift h).bind fun result result' hresult => ?_
  cases hresult with
  | ok hvalue => exact .pure hvalue
  | error _ => exact .throw (alike_internal words hsilent ..)

theorem alike_find (operation : Operation) (id : Int) :
    Stage.Alike Eq (s.find operation id) ((s.reworded words).find operation id) := by
  refine (alike_guarded words hsilent operation (some id) (alike_call (.findById id))).bind
    fun found found' hfound => ?_
  subst hfound
  cases found with
  | some e => exact .pure rfl
  | none => exact .throw rfl

theorem alike_checkExistence (operation : Operation) (id : Int) :
    Stage.Alike Eq (s.checkExistence operation id)
      ((s.reworded words).checkExistence operation id) := by
  refine (alike_guarded words hsilent operation (some id) (alike_call (.contains id))).bind
    fun known known' hknown => ?_
  subst hknown
  cases known with
  | true => exact .pure rfl
  | false => exact .throw rfl

theorem alike_transact {V : α → β → Prop} (operation : Operation) (id : Option Int)
    {work : Script E (Except Failure α)} {work' : Script E (Except Failure β)}
    (h : Script.Alike (Outcome.Alike AnyWords V) work work') :
    Stage.Alike V (s.transact operation id work) ((s.reworded words).transact operation id work') :=
  (alike_guarded words hsilent operation id (alike_call .begin)).bind fun _ _ _ =>
    alike_guarded words hsilent operation id (Scope.alike_run h)

theorem alike_render (operation : Operation) (accept : Option String)
    {json json' : Except String Json.Node} (h : Outcome.Alike AnyWords Eq json json')
    (xml : String) :
    Stage.Alike Eq (s.render operation accept json xml)
      ((s.reworded words).render operation accept json' xml) := by
  unfold render
  cases Representation.negotiate accept with
  | xml => exact .pure rfl
  | json =>
    cases h with
    | ok hnode => exact .pure (by rw [hnode])
    | error _ => exact .throw (alike_internal words hsilent ..)

theorem alike_renderOne (operation : Operation) (accept : Option String) (document : D) :
    Stage.Alike Eq (s.renderOne operation accept document)
      ((s.reworded words).renderOne operation accept document) :=
  alike_render words hsilent operation accept (words.json_alike document) _

theorem alike_renderAll (operation : Operation) (accept : Option String) (documents : List D) :
    Stage.Alike Eq (s.renderAll operation accept documents)
      ((s.reworded words).renderAll operation accept documents) := by
  have hread := Outcome.Alike.mapM words.json_alike documents
  refine alike_render words hsilent operation accept ?_ _
  exact hread.bind fun nodes nodes' hnodes => .ok (congrArg Json.Node.array hnodes)

/-! ## Requests -/

omit hsilent in
/-- Work with an entity that is made in other words. -/
theorem alike_withEntity {made made' : Except String E} (h : Outcome.Alike AnyWords Eq made made')
    (call : E → Script E (Except Failure α))
    (hcall : ∀ e, Script.Alike (Outcome.Alike AnyWords Eq) (call e) (call e)) :
    Script.Alike (Outcome.Alike AnyWords Eq) (withEntity made call) (withEntity made' call) := by
  cases h with
  | ok he => exact he ▸ hcall _
  | error _ => exact .crash _ _

omit hsilent in
theorem alike_remove (id : Int) :
    Script.Alike (Outcome.Alike AnyWords Eq) (remove (E := E) id) (remove id) := by
  refine (alike_call (.delete id)).bind fun removed removed' hremoved => ?_
  cases hremoved with
  | error _ => exact .done (.error trivial)
  | ok hyes =>
    subst hyes
    rename_i yes
    cases yes with
    | true => exact .done (.ok rfl)
    | false => exact .done (.error trivial)

theorem alike_list (pairs : List (String × String)) (accept : Option String) :
    Stage.Alike Eq (s.list pairs accept) ((s.reworded words).list pairs accept) := by
  have hquery : (s.reworded words).resource.query (s.reworded words).resource.schema
      (s.reworded words).options.limits pairs =
        s.resource.query s.resource.schema s.options.limits pairs := rfl
  unfold Service.list
  rw [hquery]
  cases s.resource.query s.resource.schema s.options.limits pairs with
  | error e => exact (alike_note words ..).bind fun _ _ _ => .throw rfl
  | ok query =>
    refine (alike_guarded words hsilent .list none (alike_call (.findAll query))).bind
      fun entities entities' hentities => ?_
    subst hentities
    refine (alike_note words ..).bind fun _ _ _ => ?_
    refine (alike_renderAll words hsilent .list accept _).bind fun shown shown' hshown => ?_
    exact .pure (congrArg Grant.ok hshown)

theorem alike_get (id : Int) (accept : Option String) :
    Stage.Alike Eq (s.get id accept) ((s.reworded words).get id accept) := by
  refine (alike_checkIdentifier words .get id).bind fun _ _ _ => ?_
  refine (alike_find words hsilent .get id).bind fun e e' he => ?_
  subst he
  refine (alike_renderOne words hsilent .get accept _).bind fun shown shown' hshown => ?_
  exact .pure (congrArg Grant.ok hshown)

theorem alike_create (body : Bytes) (accept : Option String) :
    Stage.Alike Eq (s.create body accept) ((s.reworded words).create body accept) := by
  refine (alike_bind words .create body).bind fun document document' hdocument => ?_
  subst hdocument
  refine (alike_checkRules words .create none _).bind fun _ _ _ => ?_
  refine (alike_transact words hsilent .create none (alike_withEntity (words.create_alike _ _) _
    fun e => alike_call (.insert e))).bind fun saved saved' hsaved => ?_
  subst hsaved
  refine (alike_note words ..).bind fun _ _ _ => ?_
  refine (alike_renderOne words hsilent .create accept _).bind fun shown shown' hshown => ?_
  subst hshown
  exact .pure rfl

theorem alike_update (id : Int) (body : Bytes) :
    Stage.Alike Eq (s.update id body) ((s.reworded words).update id body) := by
  refine (alike_checkIdentifier words .update id).bind fun _ _ _ => ?_
  refine (alike_checkExistence words hsilent .update id).bind fun _ _ _ => ?_
  refine (alike_bind words .update body).bind fun document document' hdocument => ?_
  subst hdocument
  refine (alike_checkRules words .update (some id) _).bind fun _ _ _ => ?_
  refine (alike_checkAgreement words .update id document).bind fun _ _ _ => ?_
  refine (alike_transact words hsilent .update (some id) (alike_withEntity (words.create_alike _ _) _
    fun e => alike_call (.update e))).bind fun _ _ _ => ?_
  exact (alike_note words ..).bind fun _ _ _ => .pure rfl

theorem alike_updatePartial (id : Int) (body : Bytes) :
    Stage.Alike Eq (s.updatePartial id body) ((s.reworded words).updatePartial id body) := by
  refine (alike_checkIdentifier words .updatePartial id).bind fun _ _ _ => ?_
  refine (alike_find words hsilent .updatePartial id).bind fun existing existing' hexisting => ?_
  subst hexisting
  refine (alike_bind words .updatePartial body).bind fun document document' hdocument => ?_
  subst hdocument
  refine (alike_checkRules words .updatePartial (some id) _).bind fun _ _ _ => ?_
  refine (alike_checkAgreement words .updatePartial id document).bind fun _ _ _ => ?_
  refine (alike_transact words hsilent .updatePartial (some id) (alike_withEntity
    (words.merge_alike _ _) _ fun e => alike_call (.updatePartial e))).bind fun _ _ _ => ?_
  exact (alike_note words ..).bind fun _ _ _ => .pure rfl

theorem alike_delete (id : Int) :
    Stage.Alike Eq (s.delete id) ((s.reworded words).delete id) := by
  refine (alike_checkIdentifier words .delete id).bind fun _ _ _ => ?_
  refine (alike_checkPolicy words id).bind fun _ _ _ => ?_
  refine (alike_checkExistence words hsilent .delete id).bind fun _ _ _ => ?_
  refine (alike_transact words hsilent .delete (some id) (alike_remove id)).bind fun _ _ _ => ?_
  exact (alike_note words ..).bind fun _ _ _ => .pure rfl

/-- **A silent service handles a request alike**, whatever words it and its repository use. -/
theorem alike_handle (request : Request) :
    Script.Alike (Outcome.Alike Problem.Alike Eq) (s.handle request)
      ((s.reworded words).handle request) := by
  cases request with
  | list pairs accept => exact alike_list words hsilent pairs accept
  | get id accept => exact alike_get words hsilent id accept
  | create body accept => exact alike_create words hsilent body accept
  | update id body => exact alike_update words hsilent id body
  | updatePartial id body => exact alike_updatePartial words hsilent id body
  | delete id => exact alike_delete words hsilent id

end Silent

end Service

end ResourceApi
