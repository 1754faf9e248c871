import ResourceApi.Proofs.Service.Calls
import ResourceApi.Proofs.Store.Answers
import ResourceApi.Proofs.Store.Holdings

/-!
# What requests keep

Something that holds of the repository goes on to hold through a request if the look-up keeps it,
and if the transaction keeps it of a request that has passed all gates before. Over a store, what a
predicate says of the entities under their identifiers goes on to hold if every request that gets to
its transaction brings only such entities.

## Main definitions

- `Session.Upholds` — a predicate holds of all that is committed and staged

## Main results

- `Service.handle_keeps` — over any repository
- `Service.transactState_keeps` — what a transaction keeps
- `Service.handle_upholds` — over a store
-/

namespace ResourceApi

variable {E D σ α : Type} {P : Int → Option E → Prop}

/-- A predicate holds of all that is committed and staged, and the counter is positive. -/
structure Session.Upholds (P : Int → Option E → Prop) (x : Session E) : Prop where
  holds : x.Holds P
  positive : 0 < x.store.nextId

theorem Session.Upholds.answer [Entity E] {x : Session E} (h : x.Upholds P) {call : Call E}
    (hb : call.Brings P x.store) : (Session.answer call x).2.Upholds P where
  holds := h.holds.answer hb
  positive := Int.lt_of_lt_of_le h.positive (Session.answer_nextId_le call x)

theorem Call.brings_of_not_change [Entity E] {call : Call E} (h : call.isChange = false)
    (s : Store E) : call.Brings P s := by
  cases call <;> first | exact trivial | cases h

namespace Service

variable (s : Service E D) {answer : Script.Answerer E σ} {I : σ → Prop}

/-- Over any repository a request keeps what its look-up keeps, and its transaction once all gates
before are passed. -/
theorem handle_keeps (hcalm : Calm answer) {x : σ} {request : Request} (hx : I x)
    (hlooked : I (s.looked answer x request))
    (htransacted : (∀ gate ∈ Gate.beforeTransaction, s.stop? answer x request gate = none) →
      ∀ change, s.change? answer x request = some change →
        I (transactState answer (.ofChange answer change) (s.looked answer x request))) :
    I ((s.handle request).run answer x).state := by
  obtain ⟨grant, hcourse⟩ := s.stages_follow answer hcalm request x
  have hstate : ((s.handle request).run answer x).state = _ := congrArg Course.state hcourse
  rw [hstate, Gate.all, List.map_append]
  refine Course.state_through_append hx ?_ ?_ grant
  · intro p hp
    obtain ⟨gate, hgate, rfl⟩ := List.mem_map.mp hp
    cases gate with
    | identifier => exact hx
    | policy => exact hx
    | query => exact hx
    | existence => exact hlooked
    | document => exact hlooked
    | agreement => exact hlooked
    | transaction => exact absurd hgate (by decide)
    | answer => exact absurd hgate (by decide)
  · intro hpassed p hp
    have hgates := (s.passed_iff answer Gate.beforeTransaction).mp hpassed
    -- Behind the transaction only the answer is rendered, which calls nothing.
    have hbehind : I (s.gateState answer x request .transaction) := by
      simp only [gateState]
      cases hchange : s.change? answer x request with
      | none => exact hlooked
      | some change => exact htransacted hgates change hchange
    obtain ⟨gate, hgate, rfl⟩ := List.mem_map.mp hp
    cases gate with
    | transaction => exact hbehind
    | answer => exact hbehind
    | _ => exact absurd hgate (by decide)

/-- A transaction keeps what its work keeps, if it is kept by all calls that make no change. -/
theorem transactState_keeps
    (hkeeps : ∀ (call : Call E) (x : σ), call.isChange = false → I x → I (answer call x).2)
    {w : Work E σ α} (hw : ∀ x, I x → I (w.act x).2) {x : σ} (hx : I x) :
    I (transactState answer w x) := by
  have hsettled (y : σ) (hy : I y) : I (Scope.settled answer y) :=
    hkeeps .release _ rfl (hkeeps .rollback y rfl hy)
  have hopened : I (answer .begin x).2 := hkeeps .begin x rfl hx
  unfold transactState
  cases (answer .begin x).1 with
  | failed failure => exact hopened
  | crashed message => exact hopened
  | returned _ =>
    have hdone := hw _ hopened
    have hcommitted := hkeeps .commit _ rfl hdone
    unfold endState
    cases (w.act (answer .begin x).2).1 with
    | failed failure => exact hsettled _ hdone
    | crashed message => exact hsettled _ hdone
    | returned value =>
      dsimp only
      cases (answer .commit (w.act (answer .begin x).2).2).1 with
      | returned _ => exact hkeeps .release _ rfl hcommitted
      | failed failure => exact hsettled _ hcommitted
      | crashed message => exact hsettled _ hcommitted

theorem looked_keeps
    (hkeeps : ∀ (call : Call E) (x : σ), call.isChange = false → I x → I (answer call x).2)
    {x : σ} (hx : I x) (request : Request) : I (s.looked answer x request) := by
  unfold looked
  cases hlookup : s.lookup? request with
  | none => exact hx
  | some call =>
    refine hkeeps call x ?_ hx
    have hinside := (s.lookup?_outside hlookup).2
    exact (Bool.or_eq_false_iff.mp hinside).1

variable [Entity E]

/-- **Requests over a store**: what holds of the entities under their identifiers goes on to hold,
if every request that gets to its transaction brings only what it holds of. -/
theorem handle_upholds {x : Session E} {request : Request} (hx : x.Upholds P)
    (hbrings : (∀ gate ∈ Gate.beforeTransaction, s.stop? Session.answer x request gate = none) →
      ∀ call, s.change? Session.answer x request = some (.ok call) →
        ∀ store : Store E, 0 < store.nextId → call.Brings P store) :
    ((s.handle request).run Session.answer x).state.Upholds P := by
  have hkeeps (call : Call E) (y : Session E) (hcall : call.isChange = false)
      (hy : y.Upholds P) : (Session.answer call y).2.Upholds P :=
    hy.answer (Call.brings_of_not_change hcall y.store)
  have hlooked : (s.looked Session.answer x request).Upholds P := s.looked_keeps hkeeps hx request
  refine s.handle_keeps Session.answer_calm hx hlooked fun hgates change hchange => ?_
  refine transactState_keeps hkeeps (fun y hy => ?_) hlooked
  cases change with
  | error message => exact hy
  | ok call => exact hy.answer (hbrings hgates call hchange y.store hy.positive)

end Service

end ResourceApi
