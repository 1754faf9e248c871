import ResourceApi.Resource.Service

/-!
# Conversations

What a script says and hears: its calls, each with the reply to it, and what it comes to in the end.
A conversation says nothing about what happens elsewhere between two calls, so it describes a script
that runs next to others. The conversation of a request is put together from those of its stages.

## Main definitions

- `Exchange` — a call and the reply to it
- `Script.Converses` — a script has a conversation and an outcome
- `Service.editing` — the conversation of an edit

## Main results

- `Script.Converses.bind` — one script after the other
- `Scope.converses_run` — work that succeeds, in a scope that commits
- `Service.converses_updatePartial` — an edit that nothing refuses
-/

namespace ResourceApi

variable {E D α β : Type}

/-- A call and the reply to it. -/
structure Exchange (E : Type) where
  call : Call E
  reply : Reply call.Result

/-- The script makes these calls, if it gets these replies, and has this outcome in the end. -/
inductive Script.Converses : Script E α → List (Exchange E) → Except String α → Prop where
  | done (a : α) : Converses (.done a) [] (.ok a)
  | crash (message : String) : Converses (.crash message) [] (.error message)
  | ask (call : Call E) (next : Reply call.Result → Script E α) (reply : Reply call.Result)
      {exchanges : List (Exchange E)} {outcome : Except String α}
      (h : Converses (next reply) exchanges outcome) :
      Converses (.ask call next) (⟨call, reply⟩ :: exchanges) outcome
  | note (event : Event) (next : Script E α) {exchanges : List (Exchange E)}
      {outcome : Except String α} (h : Converses next exchanges outcome) :
      Converses (.note event next) exchanges outcome

namespace Script

variable {script : Script E α} {exchanges more : List (Exchange E)}

theorem converses_call (c : Call E) (value : c.Result) :
    Converses (call c) [⟨c, .returned value⟩] (.ok (.ok value)) :=
  .ask c _ (.returned value) (.done _)

/-- By induction on the conversation of the first script. -/
theorem Converses.bind {next : α → Script E β} {a : α} {outcome : Except String β}
    (h : Converses script exchanges (.ok a)) (hnext : Converses (next a) more outcome) :
    Converses (script >>= next) (exchanges ++ more) outcome := by
  change Converses (script.bind next) (exchanges ++ more) outcome
  -- The outcome is made a variable for the induction; a script that crashes does not have this one.
  generalize hresult : (Except.ok a : Except String α) = result at h
  induction h with
  | done a' =>
    obtain rfl := Except.ok.inj hresult
    exact hnext
  | crash message => cases hresult
  | ask call rest reply _ ih => exact .ask call _ reply (ih hresult)
  | note event rest _ ih => exact .note event _ (ih hresult)

theorem Converses.bind_silent {next : α → Script E β} {a : α} {outcome : Except String β}
    (h : Converses script exchanges (.ok a)) (hnext : Converses (next a) [] outcome) :
    Converses (script >>= next) exchanges outcome := by
  have hbind := h.bind hnext
  rwa [List.append_nil] at hbind

/-- Catching a crash changes nothing but the outcome. -/
theorem Converses.attempt {outcome : Except String α} (h : Converses script exchanges outcome) :
    Converses script.attempt exchanges (.ok outcome) := by
  induction h with
  | done a => exact .done _
  | crash message => exact .done _
  | ask call next reply _ ih => exact .ask call _ reply ih
  | note event next _ ih => exact .note event _ ih

end Script

open Script (Converses)

/-! ## Scopes -/

namespace Scope

/-- The calls that end a scope whose work has succeeded, on a repository that lets them through. -/
def ending : List (Exchange E) := [⟨.commit, .returned ()⟩, ⟨.release, .returned ()⟩]

theorem converses_release (state : State) :
    Converses (release state : Script E Unit) [⟨.release, .returned ()⟩] (.ok ()) :=
  (Script.converses_call .release ()).bind (.done ())

theorem converses_commit :
    Converses (commit : Script E (Except Failure Unit)) ending (.ok (.ok ())) := by
  refine .ask .commit _ (.returned ()) (.note _ _ ?_)
  exact (converses_release .committed).bind (.done _)

theorem converses_run {work : Script E (Except Failure α)} {exchanges : List (Exchange E)}
    {value : α} (h : Converses work exchanges (.ok (.ok value))) :
    Converses (run work) (exchanges ++ ending) (.ok (.ok value)) :=
  h.attempt.bind (converses_commit.bind (.done _))

end Scope

/-! ## Stages -/

namespace Stage

theorem converses_bind {stage : Stage E α} {next : α → Stage E β} {a : α}
    {exchanges more : List (Exchange E)} {outcome : Except String (Except Problem β)}
    (h : Converses stage.run exchanges (.ok (.ok a)))
    (hnext : Converses (next a).run more outcome) :
    Converses (stage >>= next).run (exchanges ++ more) outcome :=
  h.bind hnext

end Stage

namespace Service

variable (s : Service E D) (operation : Operation)

theorem converses_note (level : Level) (message : String) (data : List (String × Datum)) :
    Converses (s.note level message data).run [] (.ok (.ok ())) :=
  .note _ _ (.done _)

theorem converses_guarded (id : Option Int) {script : Script E (Except Failure α)}
    {exchanges : List (Exchange E)} {value : α}
    (h : Converses script exchanges (.ok (.ok value))) :
    Converses (s.guarded operation id script).run exchanges (.ok (.ok value)) := by
  have hlift : Converses (ExceptT.lift script : Stage E (Except Failure α)).run exchanges
      (.ok (.ok (.ok value))) := h.bind_silent (.done _)
  exact hlift.bind_silent (.done _)

theorem converses_checkIdentifier {id : Int} (hid : 0 < id) :
    Converses (s.checkIdentifier operation id).run [] (.ok (.ok ())) := by
  rw [checkIdentifier, if_neg (Int.not_le.mpr hid)]
  exact .done _

theorem converses_find (id : Int) (entity : E) :
    Converses (s.find operation id).run [⟨.findById id, .returned (some entity)⟩]
      (.ok (.ok entity)) :=
  (s.converses_guarded operation (some id)
    (Script.converses_call (.findById id) (some entity))).bind_silent (.done _)

theorem converses_bind {body : Bytes} {document : D} (h : s.resource.read body = some document) :
    Converses (s.bind operation body).run [] (.ok (.ok document)) := by
  rw [bind, h]
  exact .done _

theorem converses_checkRules (id : Option Int) {verdict : Except Violations Unit}
    (h : verdict = .ok ()) :
    Converses (s.checkRules operation id verdict).run [] (.ok (.ok ())) := by
  subst h
  exact .done _

/-- A document agrees with the identifier of the path if it claims no other one. -/
theorem converses_checkAgreement {id : Int} {document : D}
    (h : ∀ claimed ∈ s.resource.claimedId document, claimed = id) :
    Converses (s.checkAgreement operation id document).run [] (.ok (.ok ())) := by
  rw [checkAgreement]
  cases hclaimed : s.resource.claimedId document with
  | none => exact .done _
  | some claimed =>
    dsimp only
    rw [if_pos (h claimed hclaimed)]
    exact .done _

theorem converses_transact (id : Option Int) {work : Script E (Except Failure α)}
    {exchanges : List (Exchange E)} {value : α}
    (h : Converses work exchanges (.ok (.ok value))) :
    Converses (s.transact operation id work).run
      ([⟨.begin, .returned ()⟩] ++ (exchanges ++ Scope.ending)) (.ok (.ok value)) :=
  Stage.converses_bind (s.converses_guarded operation id (Script.converses_call .begin ()))
    (s.converses_guarded operation id (Scope.converses_run h))

/-- The conversation of an edit that finds an entity and stages another one in its place. -/
def editing (id : Int) (found merged : E) : List (Exchange E) :=
  [⟨.findById id, .returned (some found)⟩, ⟨.begin, .returned ()⟩,
    ⟨.updatePartial merged, .returned merged⟩, ⟨.commit, .returned ()⟩, ⟨.release, .returned ()⟩]

/-- An edit that nothing refuses and whose calls all succeed: what is found is merged with the
document, and nobody is told more than that it has been done. -/
theorem converses_updatePartial {id : Int} {body : Bytes} {document : D} {found merged : E}
    (hid : 0 < id) (hread : s.resource.read body = some document)
    (hrules : s.resource.checkPartial document = .ok ())
    (hclaimed : ∀ claimed ∈ s.resource.claimedId document, claimed = id)
    (hmerged : s.resource.merge found document = .ok merged) :
    Converses (s.handle (.updatePartial id body)) (editing id found merged)
      (.ok (.ok .noContent)) := by
  have hwork : Converses (withEntity (s.resource.merge found document) fun e =>
      Script.call (.updatePartial e)) [⟨.updatePartial merged, .returned merged⟩]
      (.ok (.ok merged)) := by
    rw [hmerged]
    exact Script.converses_call (.updatePartial merged) merged
  -- Stage by stage; of all of them only the look-up and the transaction make calls.
  refine Stage.converses_bind (s.converses_checkIdentifier .updatePartial hid) ?_
  refine Stage.converses_bind (s.converses_find .updatePartial id found) ?_
  refine Stage.converses_bind (s.converses_bind .updatePartial hread) ?_
  refine Stage.converses_bind (s.converses_checkRules .updatePartial (some id) hrules) ?_
  refine Stage.converses_bind (s.converses_checkAgreement .updatePartial hclaimed) ?_
  refine Stage.converses_bind (s.converses_transact .updatePartial (some id) hwork) ?_
  exact Stage.converses_bind (s.converses_note ..) (.done _)

end Service

end ResourceApi
