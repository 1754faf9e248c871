import ResourceApi.Proofs.Service.Stages

/-!
# The courses of the requests

Each kind of request as its stages in order, every one of them by its verdict, its calls and the
state behind it.

## Main definitions

- `Course.granted` — the course that grants a request
- `Service.course_list`, `Service.course_get`, `Service.course_create`, `Service.course_update`,
  `Service.course_updatePartial`, `Service.course_delete` — the six kinds of requests
-/

namespace ResourceApi

variable {E D σ : Type}

/-- The course that grants a request and calls nothing. -/
def Course.granted (grant : Grant) (x : σ) : Course E σ (Except Problem Grant) :=
  ⟨.ok (.ok grant), x, []⟩

namespace Service

variable (s : Service E D) (answer : Script.Answerer E σ)

theorem course_list (pairs : List (String × String)) (accept : Option String) (x : σ) :
    Stage.course answer (s.list pairs accept) x =
      (Course.ofVerdict (s.queryVerdict pairs) x []).proceed fun query x =>
        (Course.ofVerdict (s.listVerdict answer query x) (answer (.findAll query) x).2
            [.findAll query]).proceed fun entities x =>
          (Course.ofVerdict (s.showAll .list accept (entities.map s.resource.present)) x
            []).proceed fun shown x => .granted (.ok shown) x := by
  unfold list queryVerdict
  cases s.resource.query s.resource.schema s.options.limits pairs with
  | error e => rfl
  | ok query =>
    rw [Course.ofVerdict_proceed_ok, Course.after_nil]
    refine Stage.course_bind_of answer (s.course_findAll answer query x) fun entities y => ?_
    exact Stage.course_bind_of answer (s.course_render answer .list accept _ _ y) fun _ _ => rfl

theorem course_get (id : Int) (accept : Option String) (x : σ) :
    Stage.course answer (s.get id accept) x =
      (Course.ofVerdict (identifierVerdict .get id) x []).proceed fun _ x =>
        (Course.ofVerdict (s.findVerdict answer .get id x) (answer (.findById id) x).2
            [.findById id]).proceed fun entity x =>
          (Course.ofVerdict (s.showOne .get accept (s.resource.present entity)) x
            []).proceed fun shown x => .granted (.ok shown) x := by
  refine Stage.course_bind_of answer (s.course_checkIdentifier answer .get id x) fun _ y => ?_
  refine Stage.course_bind_of answer (s.course_find answer .get id y) fun entity y => ?_
  exact Stage.course_bind_of answer (s.course_render answer .get accept _ _ y) fun _ _ => rfl

variable {answer}

theorem course_create (h : Calm answer) (body : Bytes) (accept : Option String) (x : σ) :
    Stage.course answer (s.create body accept) x =
      (Course.ofVerdict (s.documentVerdict .create s.resource.checkCreate body) x
          []).proceed fun document x =>
        (s.transactCourse answer .create none
            (.insert answer (s.resource.create document none)) x).proceed fun saved x =>
          (Course.ofVerdict (s.showOne .create accept (s.resource.present saved)) x
              []).proceed fun shown x =>
            .granted
              { Grant.created shown with location := s.location? (s.resource.identify saved) }
              x := by
  refine s.course_document answer .create none _ body x fun document y => ?_
  refine Stage.course_bind_of answer
    (s.course_transact h (Work.insert_describes answer _) .create none y) fun saved y => ?_
  exact Stage.course_bind_of answer (s.course_render answer .create accept _ _ y) fun _ _ => rfl

theorem course_update (h : Calm answer) (id : Int) (body : Bytes) (x : σ) :
    Stage.course answer (s.update id body) x =
      (Course.ofVerdict (identifierVerdict .update id) x []).proceed fun _ x =>
        (Course.ofVerdict (s.existenceVerdict answer .update id x) (answer (.contains id) x).2
            [.contains id]).proceed fun _ x =>
          (Course.ofVerdict (s.documentVerdict .update s.resource.checkUpdate body) x
              []).proceed fun document x =>
            (Course.ofVerdict (s.agreementVerdict .update id document) x []).proceed fun _ x =>
              (s.transactCourse answer .update (some id)
                  (.update answer (s.resource.create document (some id))) x).proceed fun _ x =>
                .granted .noContent x := by
  refine Stage.course_bind_of answer (s.course_checkIdentifier answer .update id x) fun _ y => ?_
  refine Stage.course_bind_of answer (s.course_checkExistence answer .update id y) fun _ y => ?_
  refine s.course_document answer .update (some id) _ body y fun document y => ?_
  refine Stage.course_bind_of answer (s.course_checkAgreement answer .update id document y)
    fun _ y => ?_
  exact Stage.course_bind_of answer
    (s.course_transact h (Work.update_describes answer _) .update (some id) y) fun _ _ => rfl

theorem course_updatePartial (h : Calm answer) (id : Int) (body : Bytes) (x : σ) :
    Stage.course answer (s.updatePartial id body) x =
      (Course.ofVerdict (identifierVerdict .updatePartial id) x []).proceed fun _ x =>
        (Course.ofVerdict (s.findVerdict answer .updatePartial id x) (answer (.findById id) x).2
            [.findById id]).proceed fun existing x =>
          (Course.ofVerdict (s.documentVerdict .updatePartial s.resource.checkPartial body) x
              []).proceed fun document x =>
            (Course.ofVerdict (s.agreementVerdict .updatePartial id document) x
                []).proceed fun _ x =>
              (s.transactCourse answer .updatePartial (some id)
                  (.updatePartial answer (s.resource.merge existing document))
                  x).proceed fun _ x =>
                .granted .noContent x := by
  refine Stage.course_bind_of answer (s.course_checkIdentifier answer .updatePartial id x)
    fun _ y => ?_
  refine Stage.course_bind_of answer (s.course_find answer .updatePartial id y)
    fun existing y => ?_
  refine s.course_document answer .updatePartial (some id) _ body y fun document y => ?_
  refine Stage.course_bind_of answer (s.course_checkAgreement answer .updatePartial id document y)
    fun _ y => ?_
  exact Stage.course_bind_of answer
    (s.course_transact h (Work.updatePartial_describes answer _) .updatePartial (some id) y)
    fun _ _ => rfl

theorem course_delete (h : Calm answer) (id : Int) (x : σ) :
    Stage.course answer (s.delete id) x =
      (Course.ofVerdict (identifierVerdict .delete id) x []).proceed fun _ x =>
        (Course.ofVerdict (s.policyVerdict id) x []).proceed fun _ x =>
          (Course.ofVerdict (s.existenceVerdict answer .delete id x) (answer (.contains id) x).2
              [.contains id]).proceed fun _ x =>
            (s.transactCourse answer .delete (some id) (.delete answer id) x).proceed fun _ x =>
              .granted .noContent x := by
  refine Stage.course_bind_of answer (s.course_checkIdentifier answer .delete id x) fun _ y => ?_
  refine Stage.course_bind_of answer (s.course_checkPolicy answer id y) fun _ y => ?_
  refine Stage.course_bind_of answer (s.course_checkExistence answer .delete id y) fun _ y => ?_
  exact Stage.course_bind_of answer
    (s.course_transact h (Work.delete_describes answer id) .delete (some id) y) fun _ _ => rfl

end Service

end ResourceApi
