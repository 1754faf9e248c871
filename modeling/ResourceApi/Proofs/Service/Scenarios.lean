import ResourceApi.Proofs.Service.Calls
import ResourceApi.Proofs.Service.Conversations
import ResourceApi.Proofs.Store.Answers

/-!
# Scenarios

All that a request about one entity hears is whether its look-up finds the entity, whether the
identifier is still taken when the change is made, and whether the commit goes through. These three
replies make a scenario, and how a request meets its gates in a scenario says what it calls and what
it comes to if it hears them, whoever gives the replies.

## Main definitions

- `Scenario` — what a request hears
- `Scenario.Clear` — nothing gets in the way of its change
- `Refused`, `Plain` — how a request ends
- `Request.target?`, `Call.staging?` — what a request and a call are to change

## Main results

- `Script.converses_heard` — the conversation of a script whose calls hear the same at any time
- `Service.converses_stopped` — the conversation of a request that is stopped at a gate
- `Service.converses_passed` — the conversation of a request that passes all gates
- `Session.answer_lookup`, `Session.answer_change_of_found`, `Session.answer_change_of_gone` — what
  a store replies to a look-up and to a change
-/

namespace ResourceApi

variable {E D α : Type}

open Script (Converses)

/-! ## What a request may hear -/

/-- The identifier of the entity that a request is to change. -/
def Request.target? : Request → Option Int
  | .update id _ | .updatePartial id _ | .delete id => some id
  | .list .. | .get .. | .create .. => none

def Request.deletes : Request → Bool
  | .delete _ => true
  | _ => false

/-- What a call stages, if it changes an entity that is there. -/
def Call.staging? [Entity E] : Call E → Option (Int × Staged E)
  | .update e | .updatePartial e => some (Entity.id e, .update e)
  | .delete id => some (id, .delete)
  | _ => none

/-- What a request hears on its errand. -/
structure Scenario (E : Type) where
  /-- What the look-up finds. -/
  found : Option E
  /-- Whether the identifier is still taken when the change is made. -/
  taken : Bool
  /-- The failure of the commit, if it does not go through. -/
  refusal : Option Failure

namespace Scenario

/-- Nothing gets in the way. -/
def fair (b : E) : Scenario E := ⟨some b, true, none⟩

/-- There is nothing to find. -/
def bare : Scenario E := ⟨none, true, none⟩

def ofRefusal : Option Failure → Reply Unit
  | none => .returned ()
  | some failure => .failed failure

variable [Entity E] (sc : Scenario E)

def reply : (call : Call E) → Reply call.Result
  | .findAll _ => .returned []
  | .findById _ => .returned sc.found
  | .contains _ => .returned sc.found.isSome
  | .insert e => .returned e
  | .update e | .updatePartial e =>
    if sc.taken then .returned e else .failed (.notFound "entity" (Number.decimal (Entity.id e)))
  | .delete _ => .returned sc.taken
  | .commit => ofRefusal sc.refusal
  | .begin | .rollback | .release => .returned ()

def exchange (call : Call E) : Exchange E := ⟨call, sc.reply call⟩

def answer : Script.Answerer E Unit := fun call _ => (sc.reply call, ())

/-- The calls behind a change. -/
def ending : List (Call E) :=
  Scope.closing (if sc.taken then some (ofRefusal sc.refusal) else none)

theorem answer_begin (x : Unit) : sc.answer .begin x = (.returned (), ()) := rfl

theorem act_ofChange (call : Call E) (x : Unit) :
    (Work.ofChange sc.answer (.ok call)).act x = (Work.changed call (sc.reply call), ()) := rfl

theorem answer_calm : Calm sc.answer := by
  intro x message
  constructor <;> nofun

/-- Nothing gets in the way of a change. -/
def Clear : Prop := sc.taken = true ∧ sc.refusal = none

section Changes

variable {sc} {call : Call E}

theorem changed_of_taken (htaken : sc.taken = true) (h : call.staging?.isSome) :
    Work.changed call (sc.reply call) = .returned () := by
  cases call with
  | update e | updatePartial e | delete id =>
    simp only [reply, htaken, if_true]
    rfl
  | _ => cases h

theorem changed_of_gone (htaken : sc.taken = false) (h : call.staging?.isSome) :
    ∃ failure, Work.changed call (sc.reply call) = .failed failure := by
  cases call with
  | update e | updatePartial e | delete id =>
    simp only [reply, htaken]
    exact ⟨_, rfl⟩
  | _ => cases h

/-- The reply to a change depends on whether the identifier is taken. -/
theorem reply_change {sc sc' : Scenario E} (h : call.staging?.isSome)
    (htaken : sc.taken = sc'.taken) : sc.reply call = sc'.reply call := by
  cases call with
  | update e | updatePartial e | delete id => simp only [reply, htaken]
  | _ => cases h

end Changes

end Scenario

/-- A script whose calls hear the same at any time has the conversation of its calls. -/
theorem Script.converses_heard (reply : (call : Call E) → Reply call.Result) (script : Script E α) :
    Converses script
      ((script.course (fun call (_ : Unit) => (reply call, ())) ()).calls.map
        fun call => ⟨call, reply call⟩)
      (script.course (fun call (_ : Unit) => (reply call, ())) ()).outcome := by
  induction script with
  | done a => exact .done a
  | crash message => exact .crash message
  | ask call next ih => exact .ask call next (reply call) (ih (reply call))
  | note event next ih => exact .note event next ih

/-! ## How a request ends -/

/-- A request is refused with a problem of a kind. -/
def Refused (kind : Problem.Kind) (outcome : Except String (Except Problem α)) : Prop :=
  ∃ problem : Problem, problem.kind = kind ∧ outcome = .ok (.error problem)

theorem Refused.unique {kind kind' : Problem.Kind} {outcome : Except String (Except Problem α)}
    (h : Refused kind outcome) (h' : Refused kind' outcome) : kind = kind' := by
  obtain ⟨problem, rfl, rfl⟩ := h
  obtain ⟨problem', rfl, heq⟩ := h'
  cases heq
  rfl

/-- The outcome says neither that the entity is missing nor that something inside the service
failed. -/
def Plain (outcome : Except String (Except Problem α)) : Prop :=
  ¬ Refused .notFound outcome ∧ ¬ Refused .internalError outcome

theorem plain_of_refused {problem : Problem} (hmissing : problem.kind ≠ .notFound)
    (hinternal : problem.kind ≠ .internalError) :
    Plain (.ok (.error problem) : Except String (Except Problem α)) := by
  constructor
  · rintro ⟨_, hkind, heq⟩
    cases heq
    exact hmissing hkind
  · rintro ⟨_, hkind, heq⟩
    cases heq
    exact hinternal hkind

theorem plain_of_granted (grant : α) : Plain (.ok (.ok grant)) := by
  constructor <;> (rintro ⟨_, -, heq⟩; cases heq)

theorem plain_of_crashed (message : String) :
    Plain (.error message : Except String (Except Problem α)) := by
  constructor <;> (rintro ⟨_, -, heq⟩; cases heq)

/-- Whether a gate asks nobody. -/
def Gate.isDeaf : Gate → Bool
  | .identifier | .policy | .query | .document | .agreement => true
  | .existence | .transaction | .answer => false

namespace Service

variable (s : Service E D)

theorem internal_kind (operation : Operation) (id : Option Int) (detail : String) :
    (s.internal operation id detail).kind = .internalError := by
  unfold internal
  cases id <;> cases s.options.exposeFailures <;> rfl

/-! ## What the deaf gates say -/

section Verdicts

variable {operation : Operation} {id : Int} {stop : Stop}

theorem plain_identifierVerdict (h : (identifierVerdict operation id).stop? = some stop) :
    Plain (Verdict.outcome (.error stop : Verdict Grant)) := by
  unfold identifierVerdict at h
  split at h
  · cases h
    exact plain_of_refused nofun nofun
  · cases h

theorem plain_policyVerdict (h : (s.policyVerdict id).stop? = some stop) :
    Plain (Verdict.outcome (.error stop : Verdict Grant)) := by
  unfold policyVerdict at h
  split at h
  · split at h
    · cases h
    · cases h
      exact plain_of_refused nofun nofun
  · cases h
    exact plain_of_refused nofun nofun

theorem plain_queryVerdict {pairs : List (String × String)}
    (h : (s.queryVerdict pairs).stop? = some stop) :
    Plain (Verdict.outcome (.error stop : Verdict Grant)) := by
  unfold queryVerdict at h
  split at h
  · cases h
    exact plain_of_refused nofun nofun
  · cases h

variable {rules : D → Except Violations Unit} {body : Bytes} {document : D}

theorem plain_documentVerdict (h : (s.documentVerdict operation rules body).stop? = some stop) :
    Plain (Verdict.outcome (.error stop : Verdict Grant)) := by
  unfold documentVerdict at h
  split at h
  · cases h
    exact plain_of_refused nofun nofun
  · split at h
    · cases h
      exact plain_of_refused nofun nofun
    · cases h

theorem plain_agreementVerdict (h : (s.agreementVerdict operation id document).stop? = some stop) :
    Plain (Verdict.outcome (.error stop : Verdict Grant)) := by
  unfold agreementVerdict at h
  split at h
  · cases h
  · split at h
    · cases h
    · cases h
      exact plain_of_refused nofun nofun

theorem exists_document (h : (s.documentVerdict operation rules body).stop? = none) :
    ∃ document, s.documentVerdict operation rules body = .ok document := by
  cases hverdict : s.documentVerdict operation rules body with
  | ok document => exact ⟨document, rfl⟩
  | error stop =>
    rw [hverdict] at h
    cases h

theorem claimed_of_agreement (h : (s.agreementVerdict operation id document).stop? = none) :
    ∀ claimed ∈ s.resource.claimedId document, claimed = id := by
  intro claimed hclaimed
  rw [agreementVerdict, Option.mem_def.mp hclaimed] at h
  by_cases heq : claimed = id
  · exact heq
  · simp only [if_neg heq] at h
    cases h

end Verdicts

section Scenarios

variable [Entity E]

/-- What stops a request at a gate in a scenario. -/
def halt? (sc : Scenario E) (request : Request) (gate : Gate) : Option Stop :=
  s.stop? sc.answer () request gate

/-- What a request calls at a gate in a scenario. -/
def haltCalls (sc : Scenario E) (request : Request) (gate : Gate) : List (Call E) :=
  s.gateCalls sc.answer () request gate

variable (sc : Scenario E) {request : Request}

theorem halt?_of_deaf (sc' : Scenario E) {gate : Gate} (h : gate.isDeaf = true) :
    s.halt? sc request gate = s.halt? sc' request gate := by
  cases gate with
  | identifier => rfl
  | policy | query | document | agreement => cases request <;> rfl
  | existence | transaction | answer => cases h

/-- Whatever a deaf gate refuses, it is not for want of the entity. -/
theorem plain_of_deaf {gate : Gate} (h : gate.isDeaf = true) {stop : Stop}
    (hstop : s.halt? sc request gate = some stop) :
    Plain (Verdict.outcome (.error stop : Verdict Grant)) := by
  cases gate with
  | identifier =>
    obtain ⟨id, -, hverdict⟩ := Option.bind_eq_some_iff.mp hstop
    exact plain_identifierVerdict hverdict
  | policy =>
    cases request with
    | delete id => exact s.plain_policyVerdict hstop
    | _ => cases hstop
  | query =>
    cases request with
    | list pairs accept => exact s.plain_queryVerdict hstop
    | _ => cases hstop
  | document =>
    cases request with
    | create body | update id body | updatePartial id body => exact s.plain_documentVerdict hstop
    | _ => cases hstop
  | agreement =>
    cases request with
    | update id body | updatePartial id body =>
      obtain ⟨document, -, hverdict⟩ := Option.bind_eq_some_iff.mp hstop
      exact s.plain_agreementVerdict hverdict
    | _ => cases hstop
  | existence | transaction | answer => cases h

/-! ## Conversations in a scenario -/

theorem converses_through : ∃ grant,
    let c : Course E Unit (Except Problem Grant) :=
      .through grant () (Gate.all.map (s.passage sc.answer () request))
    Converses (s.handle request) (c.calls.map sc.exchange) c.outcome := by
  obtain ⟨grant, hcourse⟩ := s.stages_follow sc.answer sc.answer_calm request ()
  refine ⟨grant, ?_⟩
  have hheard := Script.converses_heard sc.reply (s.handle request)
  have hsame : (s.handle request).course (fun call (_ : Unit) => (sc.reply call, ())) () = _ :=
    hcourse
  rw [hsame] at hheard
  exact hheard

/-- A request that is stopped at a gate has called what all gates up to that one call. -/
theorem converses_stopped (front : List Gate) {back : List Gate} {gate : Gate} {stop : Stop}
    {calls : List (Call E)} (hall : Gate.all = front ++ gate :: back)
    (hfront : ∀ g ∈ front, s.halt? sc request g = none)
    (hstop : s.halt? sc request gate = some stop)
    (hcalls : (front ++ [gate]).flatMap (s.haltCalls sc request) = calls) :
    Converses (s.handle request) (calls.map sc.exchange) (Verdict.outcome (.error stop)) := by
  obtain ⟨grant, hconverses⟩ := s.converses_through sc
  have hpassed := (s.passed_iff sc.answer front).mpr hfront
  have hp : (s.passage sc.answer () request gate).stop? = some stop := hstop
  rw [hall, List.map_append, List.map_cons, Course.through_stopped hpassed hp,
    List.flatMap_map] at hconverses
  rw [← hcalls, List.flatMap_append, List.flatMap_singleton]
  exact hconverses

theorem converses_passed (h : ∀ g ∈ Gate.all, s.halt? sc request g = none) : ∃ grant,
    Converses (s.handle request) ((Gate.all.flatMap (s.haltCalls sc request)).map sc.exchange)
      (.ok (.ok grant)) := by
  obtain ⟨grant, hconverses⟩ := s.converses_through sc
  obtain ⟨y, hy⟩ := Course.through_passed ((s.passed_iff sc.answer Gate.all).mpr h) grant ()
  rw [hy, List.flatMap_map] at hconverses
  exact ⟨grant, hconverses⟩

end Scenarios

end Service

/-! ## What a store replies -/

section Stores

variable [Entity E] {x : Session E} {sc : Scenario E}

section Changes

variable {id : Int} {call : Call E} {change : Staged E}
  (hstaging : call.staging? = some (id, change)) (hquiet : x.store.faults = Faults.none)
  (hwrites : x.writes = ∅)
include hstaging hquiet hwrites

theorem Session.answer_change_of_found {e : E} (hget : x.store.get? id = some e)
    (htaken : sc.taken = true) :
    answer call x = (sc.reply call, ⟨x.store, (∅ : WriteSet E).insert id change⟩) := by
  have hcontains : x.store.entities.contains id = true := by
    rw [Store.contains_entities, hget]
    rfl
  cases call with
  | update entity | updatePartial entity =>
    obtain ⟨rfl, rfl⟩ := Prod.mk.inj (Option.some.inj hstaging)
    simp only [answer, update_of_quiet hquiet hwrites hcontains, Scenario.reply, htaken, if_true]
    rfl
  | delete _ =>
    obtain ⟨rfl, rfl⟩ := Prod.mk.inj (Option.some.inj hstaging)
    simp only [answer, delete_of_quiet hquiet hwrites hcontains, Scenario.reply, htaken]
    rfl
  | _ => cases hstaging

theorem Session.answer_change_of_gone (hget : x.store.get? id = none) (htaken : sc.taken = false) :
    answer call x = (sc.reply call, x) := by
  have hcontains : x.store.entities.contains id = false := by
    rw [Store.contains_entities, hget]
    rfl
  cases call with
  | update entity | updatePartial entity =>
    obtain ⟨rfl, rfl⟩ := Prod.mk.inj (Option.some.inj hstaging)
    simp only [answer, update_of_free hquiet hwrites hcontains, Scenario.reply, htaken]
    rfl
  | delete _ =>
    obtain ⟨rfl, rfl⟩ := Prod.mk.inj (Option.some.inj hstaging)
    simp only [answer, delete_of_free hquiet hwrites hcontains, Scenario.reply, htaken]
    rfl
  | _ => cases hstaging

end Changes

section Lookups

variable {s : Service E D} {request : Request} {id : Int} {look : Call E}
  (hlook : s.lookup? request = some look) (htarget : request.target? = some id)
include hlook htarget

theorem Session.answer_lookup (hquiet : x.store.faults = Faults.none)
    (hfound : x.store.get? id = sc.found) : answer look x = (sc.reply look, x) := by
  cases request with
  | updatePartial _ body =>
    cases htarget
    cases hlook
    rw [answer_findById_of_quiet hquiet, hfound]
    rfl
  | update _ body | delete _ =>
    cases htarget
    cases hlook
    rw [answer_contains_of_quiet hquiet, hfound]
    rfl
  | _ => cases htarget

/-- The reply to a look-up depends on what it finds, and if the entity is to be removed, on whether
it finds anything. -/
theorem Scenario.reply_lookup {sc' : Scenario E}
    (hfound : sc.found = sc'.found ∨ request.deletes = true ∧ sc.found.isSome = sc'.found.isSome) :
    sc.reply look = sc'.reply look := by
  cases request with
  | update _ body | delete _ =>
    cases hlook
    have hsome : sc.found.isSome = sc'.found.isSome := hfound.elim (congrArg _) And.right
    exact congrArg Reply.returned hsome
  | updatePartial _ body =>
    cases hlook
    rcases hfound with hfound | ⟨hdeletes, -⟩
    · exact congrArg Reply.returned hfound
    · cases hdeletes
  | _ => cases htarget

end Lookups

end Stores

end ResourceApi
