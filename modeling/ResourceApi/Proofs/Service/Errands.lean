import ResourceApi.Proofs.Service.Scenarios

/-!
# Errands

A request that is to change an entity which is there looks the entity up, reads its body, and makes
one change in a transaction. It may be refused before it asks anybody, or behind its look-up; and if
it makes its change, the change may come too late, and so may the commit.

## Main definitions

- `Service.KeepsIdentifier` — what is made for the place of an entity has its identifier
- `Request.Alters` — a call makes the change that a request asks for
- `Misses`, `Pursues` — what a request comes to that finds nothing, and one that makes its change
- `Service.Errand` — the conversations of a request that is to change an entity

## Main results

- `Service.errand` — every request that is to change an entity is on such an errand
-/

namespace ResourceApi

variable {E D : Type} [Entity E]

open Script (Converses)

/-- The call makes the change of an entity that the request asks for. -/
def Request.Alters (request : Request) (id : Int) (call : Call E) (change : Staged E) : Prop :=
  call.staging? = some (id, change) ∧
    if request.deletes then change = .delete else ∃ e, change = .update e

theorem Request.Alters.isSome {request : Request} {id : Int} {call : Call E} {change : Staged E}
    (h : request.Alters id call change) : call.staging?.isSome :=
  Option.isSome_of_eq_some h.1

/-- The script asks whether there is an entity, and is refused as it hears that there is none. -/
def Misses (look : Call E) (script : Script E (Except Problem Grant)) : Prop :=
  ∃ outcome, Refused .notFound outcome ∧ Converses script [Scenario.bare.exchange look] outcome

/-- The script goes on with some calls, the last one of them a change, and ends as scenarios end. -/
def Pursues (P : Scenario E → Prop) (unhindered : Except String (Except Problem Grant))
    (calls : List (Call E)) (script : Script E (Except Problem Grant)) : Prop :=
  ∀ sc, P sc → ∃ outcome, Converses script ((calls ++ sc.ending).map sc.exchange) outcome ∧
    (sc.Clear → outcome = unhindered) ∧ (¬ sc.Clear → Refused .internalError outcome)

/-- Behind the next call, in the scenarios in which that call hears a given reply. -/
theorem Pursues.next {P Q : Scenario E → Prop}
    {unhindered : Except String (Except Problem Grant)} {call : Call E} {calls : List (Call E)}
    {script rest : Script E (Except Problem Grant)} {reply : Reply call.Result}
    (h : Pursues P unhindered (call :: calls) script)
    (hrest : ∀ {exchanges : List (Exchange E)} {outcome : Except String (Except Problem Grant)},
      Converses script (⟨call, reply⟩ :: exchanges) outcome → Converses rest exchanges outcome)
    (hQ : ∀ sc, Q sc → P sc ∧ sc.reply call = reply) : Pursues Q unhindered calls rest := by
  intro sc hsc
  obtain ⟨hP, hreply⟩ := hQ sc hsc
  obtain ⟨outcome, hconverses, hends⟩ := h sc hP
  rw [List.cons_append, List.map_cons, Scenario.exchange, hreply] at hconverses
  exact ⟨outcome, hrest hconverses, hends⟩

namespace Service

variable (s : Service E D)

/-- What is made for the place of an entity has the identifier of that entity. -/
structure KeepsIdentifier (id : Int) (b : E) : Prop where
  created : ∀ document e, s.resource.create document (some id) = .ok e → Entity.id e = id
  merged : ∀ document e, (∀ claimed ∈ s.resource.claimedId document, claimed = id) →
    s.resource.merge b document = .ok e → Entity.id e = id

/-- The conversations of a request that is to change an entity, from what it comes to if nothing
gets in its way. -/
inductive Errand (request : Request) (id : Int) (b : E)
    (unhindered : Except String (Except Problem Grant))
    (script : Script E (Except Problem Grant)) : Prop where
  /-- The request is refused before it asks anybody. -/
  | silent (h : Converses script [] unhindered)
  /-- The request is refused behind its look-up, or the making of the entity crashes. -/
  | idle {look : Call E} {rest : List (Call E)} (looks : s.lookup? request = some look)
      (misses : Misses look script) (quits : rest ∈ [[], [.begin, .rollback, .release]])
      (h : Converses script ((look :: rest).map (Scenario.fair b).exchange) unhindered)
  /-- The request makes its change. -/
  | busy {look call : Call E} {change : Staged E} (looks : s.lookup? request = some look)
      (misses : Misses look script) (alters : request.Alters id call change)
      (h : Pursues (·.found = some b) unhindered [look, .begin, call] script)

/-! ## The transaction of an errand -/

section Transactions

variable {sc : Scenario E} {call : Call E}

theorem transactCalls_scenario (h : call.staging?.isSome) :
    transactCalls sc.answer (.ofChange sc.answer (.ok call)) () =
      .begin :: call :: sc.ending := by
  unfold transactCalls Scenario.ending
  rw [Scenario.answer_begin, Scenario.act_ofChange]
  cases htaken : sc.taken with
  | true =>
    rw [Scenario.changed_of_taken htaken h]
    rfl
  | false =>
    obtain ⟨failure, hfailed⟩ := Scenario.changed_of_gone htaken h
    rw [hfailed]
    rfl

theorem transactVerdict_of_clear (hclear : sc.Clear) (h : call.staging?.isSome)
    (operation : Operation) (id : Option Int) :
    s.transactVerdict sc.answer operation id (.ofChange sc.answer (.ok call)) () = .ok () := by
  have hchanged := Scenario.changed_of_taken hclear.1 h
  obtain ⟨found, taken, refusal⟩ := sc
  obtain ⟨rfl, rfl⟩ := hclear
  rw [transactVerdict, Scenario.answer_begin, Scenario.act_ofChange, hchanged]
  rfl

/-- A change that comes too late, and a commit that does, are failures inside the service. -/
theorem transactVerdict_of_not_clear (hclear : ¬ sc.Clear) (h : call.staging?.isSome)
    (operation : Operation) (id : Option Int) :
    ∃ problem : Problem, problem.kind = .internalError ∧
      s.transactVerdict sc.answer operation id (.ofChange sc.answer (.ok call)) () =
        .error (.refused problem) := by
  obtain ⟨found, taken, refusal⟩ := sc
  rw [transactVerdict, Scenario.answer_begin, Scenario.act_ofChange]
  cases taken with
  | false =>
    have hgone : (⟨found, false, refusal⟩ : Scenario E).taken = false := rfl
    obtain ⟨failure, hfailed⟩ := Scenario.changed_of_gone hgone h
    rw [hfailed]
    exact ⟨_, s.internal_kind operation id failure.text, rfl⟩
  | true =>
    rw [Scenario.changed_of_taken rfl h]
    cases refusal with
    | none => exact absurd ⟨rfl, rfl⟩ hclear
    | some failure => exact ⟨_, s.internal_kind operation id failure.text, rfl⟩

end Transactions

/-! ## The gates of an errand -/

section Gates

variable {request : Request} {id : Int} {b : E} (htarget : request.target? = some id)
  (sc : Scenario E)
include htarget

omit [Entity E] in
theorem exists_lookup : ∃ look, s.lookup? request = some look := by
  cases request with
  | update _ body | updatePartial _ body | delete _ => exact ⟨_, rfl⟩
  | _ => cases htarget

theorem halt?_query : s.halt? sc request .query = none := by
  cases request with
  | update _ body | updatePartial _ body | delete _ => rfl
  | _ => cases htarget

theorem halt?_answer : s.halt? sc request .answer = none := by
  cases request with
  | update _ body | updatePartial _ body | delete _ => rfl
  | _ => cases htarget

theorem halt?_existence_of_bare :
    s.halt? .bare request .existence = some (.refused (s.missing request.operation id)) := by
  cases request with
  | update _ body | updatePartial _ body | delete _ =>
    cases htarget
    rfl
  | _ => cases htarget

variable {sc} (hfound : sc.found = some b)
include hfound

theorem halt?_existence_of_found : s.halt? sc request .existence = none := by
  obtain ⟨found, taken, refusal⟩ := sc
  cases hfound
  cases request with
  | update _ body | updatePartial _ body | delete _ => rfl
  | _ => cases htarget

/-- The change depends on what the look-up finds, and on nothing that is heard later. -/
theorem change?_of_found :
    s.change? sc.answer () request = s.change? (Scenario.fair b).answer () request := by
  obtain ⟨found, taken, refusal⟩ := sc
  cases hfound
  cases request with
  | update _ body | updatePartial _ body | delete _ => rfl
  | _ => cases htarget

omit [Entity E] htarget hfound in
theorem made_alters [Entity E] {made : Except String E} {save : E → Call E}
    (hdeletes : request.deletes = false)
    (hsave : ∀ e, (save e).staging? = some (Entity.id e, .update e))
    (hkept : ∀ e, made = .ok e → Entity.id e = id) {call : Call E} (h : made.map save = .ok call) :
    ∃ change, request.Alters id call change := by
  cases made with
  | error message => cases h
  | ok e =>
    cases h
    refine ⟨.update e, ?_, ?_⟩
    · rw [hsave, hkept e rfl]
    · rw [hdeletes]
      exact ⟨e, rfl⟩

/-- Behind the gates that read the body there is a change to make, unless the making of its entity
crashes. -/
theorem change?_alters (hkeeps : s.KeepsIdentifier id b)
    (hdocument : s.halt? sc request .document = none)
    (hagreement : s.halt? sc request .agreement = none) :
    ∃ made, s.change? sc.answer () request = some made ∧
      ∀ call, made = .ok call → ∃ change, request.Alters id call change := by
  cases request with
  | update _ body =>
    cases htarget
    obtain ⟨document, hverdict⟩ := s.exists_document hdocument
    refine ⟨(s.resource.create document (some id)).map .update, ?_, fun call hcall => ?_⟩
    · simp only [change?, hverdict, Verdict.value?, Option.map_some]
    · exact made_alters rfl (fun _ => rfl) (hkeeps.created document) hcall
  | updatePartial _ body =>
    cases htarget
    obtain ⟨document, hverdict⟩ := s.exists_document hdocument
    have hagreed : (s.agreementVerdict .updatePartial id document).stop? = none := by
      simpa only [halt?, stop?, hverdict, Verdict.value?, Option.bind_some] using hagreement
    have hfind : s.findVerdict sc.answer .updatePartial id () = .ok b := by
      obtain ⟨found, taken, refusal⟩ := sc
      cases hfound
      rfl
    refine ⟨(s.resource.merge b document).map .updatePartial, ?_, fun call hcall => ?_⟩
    · simp only [change?, hfind, hverdict, Verdict.value?, Option.map_some, Option.bind_some]
    · exact made_alters rfl (fun _ => rfl)
        (fun e => hkeeps.merged document e (s.claimed_of_agreement hagreed)) hcall
  | delete _ =>
    cases htarget
    refine ⟨_, rfl, fun call hcall => ⟨.delete, ?_⟩⟩
    cases hcall
    exact ⟨rfl, rfl⟩
  | _ => cases htarget

end Gates

/-! ## Requests that are let through to their transaction -/

/-- If it finds an entity, a request is let through to its transaction with a change to make. -/
structure Ready (request : Request) (b : E) (look : Call E) (made : Except String (Call E)) :
    Prop where
  about : ∃ id, request.target? = some id
  looks : s.lookup? request = some look
  passes : ∀ gate ∈ Gate.beforeTransaction, s.halt? (.fair b) request gate = none
  change : s.change? (Scenario.fair b).answer () request = some made

section Ready

variable {s} {request : Request} {b : E} {look : Call E} {made : Except String (Call E)}
  (h : s.Ready request b look made) {sc : Scenario E} (hfound : sc.found = some b)
include h hfound

theorem Ready.change_of_found : s.change? sc.answer () request = some made := by
  obtain ⟨id, htarget⟩ := h.about
  exact (s.change?_of_found htarget hfound).trans h.change

theorem Ready.passes_of_found :
    ∀ gate ∈ Gate.beforeTransaction, s.halt? sc request gate = none := by
  intro gate hgate
  obtain ⟨id, htarget⟩ := h.about
  cases gate with
  | identifier | policy | query | document | agreement =>
    exact (s.halt?_of_deaf sc (.fair b) rfl).trans (h.passes _ hgate)
  | existence => exact s.halt?_existence_of_found htarget hfound
  | transaction | answer => simp [Gate.beforeTransaction, Gate.checks] at hgate

theorem Ready.halt?_transaction :
    s.halt? sc request .transaction = (s.transactVerdict sc.answer request.operation request.id?
      (.ofChange sc.answer made) ()).stop? := by
  simp only [halt?, stop?, h.change_of_found hfound, Option.bind_some]

theorem Ready.calls :
    (Gate.beforeTransaction ++ [Gate.transaction]).flatMap (s.haltCalls sc request) =
      look :: transactCalls sc.answer (.ofChange sc.answer made) () := by
  simp [Gate.beforeTransaction, Gate.checks, haltCalls, gateCalls, h.looks,
    h.change_of_found hfound]

end Ready

section Ready

variable {s} {request : Request} {b : E} {look call : Call E}

/-- The making of an entity that crashes is rolled back. -/
theorem Ready.converses_crash {message : String} (h : s.Ready request b look (.error message)) :
    Converses (s.handle request)
      ([look, .begin, .rollback, .release].map (Scenario.fair b).exchange) (.error message) := by
  have hcrash : s.halt? (.fair b) request .transaction = some (.crashed message) :=
    h.halt?_transaction rfl
  exact s.converses_stopped (.fair b) Gate.beforeTransaction rfl h.passes hcrash (h.calls rfl)

/-- If nothing gets in its way, the request is granted. -/
theorem Ready.converses_fair (h : s.Ready request b look (.ok call))
    (hstaging : call.staging?.isSome) : ∃ grant, Converses (s.handle request)
      (([look, .begin, call] ++ (Scenario.fair b).ending).map (Scenario.fair b).exchange)
      (.ok (.ok grant)) := by
  obtain ⟨id, htarget⟩ := h.about
  have htransaction : s.halt? (.fair b) request .transaction = none := by
    rw [h.halt?_transaction rfl, s.transactVerdict_of_clear ⟨rfl, rfl⟩ hstaging]
    rfl
  have hpassed : ∀ gate ∈ Gate.all, s.halt? (.fair b) request gate = none := by
    rw [Gate.all, List.forall_mem_append]
    exact ⟨h.passes, by simp [htransaction, s.halt?_answer htarget]⟩
  obtain ⟨grant, hconverses⟩ := s.converses_passed (.fair b) hpassed
  have hcalls : Gate.all.flatMap (s.haltCalls (.fair b) request) =
      (Gate.beforeTransaction ++ [Gate.transaction]).flatMap (s.haltCalls (.fair b) request) := by
    simp [Gate.all, haltCalls, gateCalls]
  rw [hcalls, h.calls rfl, transactCalls_scenario hstaging] at hconverses
  exact ⟨grant, hconverses⟩

theorem Ready.converses_hindered (h : s.Ready request b look (.ok call))
    (hstaging : call.staging?.isSome) {sc : Scenario E} (hfound : sc.found = some b)
    (hclear : ¬ sc.Clear) : ∃ outcome, Refused .internalError outcome ∧
      Converses (s.handle request) (([look, .begin, call] ++ sc.ending).map sc.exchange)
        outcome := by
  obtain ⟨problem, hkind, hverdict⟩ :=
    s.transactVerdict_of_not_clear hclear hstaging request.operation request.id?
  have hstop : s.halt? sc request .transaction = some (.refused problem) := by
    rw [h.halt?_transaction hfound, hverdict]
    rfl
  have hconverses := s.converses_stopped sc Gate.beforeTransaction rfl (h.passes_of_found hfound)
    hstop (h.calls hfound)
  rw [transactCalls_scenario hstaging] at hconverses
  exact ⟨_, ⟨problem, hkind, rfl⟩, hconverses⟩

end Ready

/-! ## Errands -/

section Errands

variable {request : Request} {id : Int} {b : E} (htarget : request.target? = some id)
include htarget

/-- Behind the identifier and the policy, a request that finds nothing is told so. -/
theorem misses {look : Call E} (hlook : s.lookup? request = some look)
    (hidentifier : s.halt? (.fair b) request .identifier = none)
    (hpolicy : s.halt? (.fair b) request .policy = none) : Misses look (s.handle request) := by
  -- These two gates let it through whatever it finds.
  have hidentifier' := (s.halt?_of_deaf .bare (.fair b) rfl).trans hidentifier
  have hpolicy' := (s.halt?_of_deaf .bare (.fair b) rfl).trans hpolicy
  have hcalls : (Gate.checks ++ [Gate.existence]).flatMap (s.haltCalls .bare request) = [look] := by
    simp [Gate.checks, haltCalls, gateCalls, hlook]
  refine ⟨_, ⟨_, rfl, rfl⟩, s.converses_stopped .bare Gate.checks rfl ?_
    (s.halt?_existence_of_bare htarget) hcalls⟩
  simp [Gate.checks, hidentifier', hpolicy', s.halt?_query htarget]

variable (hkeeps : s.KeepsIdentifier id b) {look : Call E} (hlook : s.lookup? request = some look)
  (hmisses : Misses look (s.handle request))
include hkeeps hlook hmisses

theorem errand_of_ready
    (hpasses : ∀ gate ∈ Gate.beforeTransaction, s.halt? (.fair b) request gate = none) :
    ∃ unhindered, Plain unhindered ∧ s.Errand request id b unhindered (s.handle request) := by
  have hfound : (Scenario.fair b).found = some b := rfl
  obtain ⟨made, hmade, halters⟩ := s.change?_alters htarget hfound hkeeps
    (hpasses _ (by simp [Gate.beforeTransaction])) (hpasses _ (by simp [Gate.beforeTransaction]))
  have hready : s.Ready request b look made := ⟨⟨id, htarget⟩, hlook, hpasses, hmade⟩
  cases made with
  | error message =>
    exact ⟨_, plain_of_crashed message, .idle hlook hmisses (by simp) hready.converses_crash⟩
  | ok call =>
    obtain ⟨change, halters⟩ := halters call rfl
    obtain ⟨grant, hfair⟩ := hready.converses_fair halters.isSome
    refine ⟨_, plain_of_granted grant, .busy hlook hmisses halters fun sc hfound => ?_⟩
    by_cases hclear : sc.Clear
    · obtain ⟨found, taken, refusal⟩ := sc
      obtain ⟨rfl, rfl⟩ := hclear
      cases hfound
      exact ⟨_, hfair, fun _ => rfl, fun h => absurd ⟨rfl, rfl⟩ h⟩
    · obtain ⟨outcome, hrefused, hconverses⟩ :=
        hready.converses_hindered halters.isSome hfound hclear
      exact ⟨outcome, hconverses, fun h => absurd h hclear, fun _ => hrefused⟩

/-- Behind its look-up a request may be refused for its document, or for the identifier that the
document claims. -/
theorem errand_of_checked (hidentifier : s.halt? (.fair b) request .identifier = none)
    (hpolicy : s.halt? (.fair b) request .policy = none) :
    ∃ unhindered, Plain unhindered ∧ s.Errand request id b unhindered (s.handle request) := by
  have hfound : (Scenario.fair b).found = some b := rfl
  have hquery := s.halt?_query htarget (.fair b)
  have hexistence := s.halt?_existence_of_found htarget hfound
  cases hdocument : s.halt? (.fair b) request .document with
  | some stop =>
    refine ⟨_, s.plain_of_deaf _ rfl hdocument, .idle hlook hmisses List.mem_cons_self ?_⟩
    refine s.converses_stopped _ (Gate.checks ++ [.existence]) rfl ?_ hdocument ?_
    · simp [Gate.checks, hidentifier, hpolicy, hquery, hexistence]
    · simp [Gate.checks, haltCalls, gateCalls, hlook]
  | none =>
    cases hagreement : s.halt? (.fair b) request .agreement with
    | some stop =>
      refine ⟨_, s.plain_of_deaf _ rfl hagreement, .idle hlook hmisses List.mem_cons_self ?_⟩
      refine s.converses_stopped _ (Gate.checks ++ [.existence, .document]) rfl ?_ hagreement ?_
      · simp [Gate.checks, hidentifier, hpolicy, hquery, hexistence, hdocument]
      · simp [Gate.checks, haltCalls, gateCalls, hlook]
    | none =>
      refine s.errand_of_ready htarget hkeeps hlook hmisses ?_
      simp [Gate.beforeTransaction, Gate.checks, hidentifier, hpolicy, hquery, hexistence,
        hdocument, hagreement]

omit hlook hmisses in
/-- **Every request that is to change an entity is on an errand**, and if nothing gets in its way,
it is not refused for want of the entity or for a failure inside the service. -/
theorem errand :
    ∃ unhindered, Plain unhindered ∧ s.Errand request id b unhindered (s.handle request) := by
  obtain ⟨look, hlook⟩ := s.exists_lookup htarget
  cases hidentifier : s.halt? (.fair b) request .identifier with
  | some stop =>
    exact ⟨_, s.plain_of_deaf _ rfl hidentifier,
      .silent (s.converses_stopped _ [] rfl (by simp) hidentifier rfl)⟩
  | none =>
    cases hpolicy : s.halt? (.fair b) request .policy with
    | some stop =>
      exact ⟨_, s.plain_of_deaf _ rfl hpolicy,
        .silent (s.converses_stopped _ [.identifier] rfl (by simp [hidentifier]) hpolicy rfl)⟩
    | none =>
      exact s.errand_of_checked htarget hkeeps hlook
        (s.misses htarget hlook hidentifier hpolicy) hidentifier hpolicy

end Errands

end Service

end ResourceApi
