import ResourceApi.Proofs.Catalog.Custody
import ResourceApi.Proofs.Catalog.Visits
import ResourceApi.Proofs.Http.Members

/-!
# Libraries behind messages

A library that only messages have reached agrees with a shelf on which every book is sound and
stands under its own positive identifier, and it answers further messages as that shelf does.

## Main definitions

- `libraryAt`, `libraryBehind` — a library at a base, and its store behind messages
- `Shelf.Sound` — the books on a shelf are in order

## Main results

- `Shelf.responds` — the response of a library to a message
- `library_after_messages` — a library that only messages have reached
-/

namespace ResourceApi

/-- A library at a base. -/
def libraryAt (options : Options) (base : Pattern) : Routes Book Book.Draft :=
  ⟨library options, base⟩

@[simp] theorem libraryAt_service (options : Options) (base : Pattern) :
    (libraryAt options base).service = library options := rfl

/-- The store of a library that began with its seed and has had some messages. -/
def libraryBehind (options : Options) (base : Pattern) (messages : List Message) : Store Book :=
  (libraryAt options base).after (.ofList Book.seed) (messages.map .message)

namespace Shelf

variable {shelf : Shelf} {store : Store Book} {options : Options} {base : Pattern}

/-- The books on a shelf stand under positive identifiers and are sound. -/
def Sound (shelf : Shelf) : Prop :=
  ∀ (id : Int) (b : Book), shelf.books[id]? = some b → 0 < id ∧ b.Sound

/-- **The response of a library** shows what its shelf serves, and leaves it agreeing with the shelf
behind that. -/
theorem responds (h : shelf.Agrees store) {m : Message} {request : Request}
    (hdispatch : (libraryAt options base).dispatch m = .request request)
    (hmethod : (m.method == "HEAD") = false) :
    ∃ outcome : Except Problem Grant,
      outcome.mapError Problem.kind = (shelf.serve options request).1 ∧
      (store.perform ((libraryAt options base).respond m)).outcome =
        .ok (Routes.shown request.operation (.ok outcome)) ∧
      (shelf.serve options request).2.Agrees
        (store.perform ((libraryAt options base).respond m)).state.store := by
  obtain ⟨houtcome, hafter⟩ := serves options h request
  have hresponse := Routes.outcome_respond _ Session.answer hdispatch hmethod ⟨store, ∅⟩
  have hstate := Routes.state_respond (libraryAt options base) Session.answer m ⟨store, ∅⟩
  rw [hdispatch] at hstate
  rw [libraryAt_service] at hresponse
  change (((library options).handle request).run Session.answer ⟨store, ∅⟩).outcome.map _ = _
    at houtcome
  -- Nothing crashes, or the shelf would not serve the request.
  cases hrun : (((library options).handle request).run Session.answer ⟨store, ∅⟩).outcome with
  | error message =>
    rw [hrun] at houtcome
    cases houtcome
  | ok outcome =>
    rw [hrun] at houtcome hresponse
    refine ⟨outcome, Except.ok.inj houtcome, hresponse, ?_⟩
    change (shelf.serve options request).2.Agrees
      (((libraryAt options base).respond m).run Session.answer ⟨store, ∅⟩).state.store
    rw [hstate]
    exact hafter

/-- What is granted on the shelf is granted by the library. -/
theorem responds_grant (h : shelf.Agrees store) {m : Message} {request : Request}
    (hdispatch : (libraryAt options base).dispatch m = .request request)
    (hmethod : (m.method == "HEAD") = false) {grant : Grant} {after : Shelf}
    (hserve : shelf.serve options request = (.ok grant, after)) :
    (store.perform ((libraryAt options base).respond m)).outcome = .ok (.ofGrant grant) ∧
      after.Agrees (store.perform ((libraryAt options base).respond m)).state.store := by
  obtain ⟨outcome, houtcome, hresponse, hafter⟩ := responds h hdispatch hmethod
  rw [hserve] at houtcome hafter
  cases outcome with
  | error problem => cases houtcome
  | ok granted =>
    obtain rfl : granted = grant := Except.ok.inj houtcome
    exact ⟨hresponse, hafter⟩

/-- A response that reports no problem shows what the shelf has granted. -/
theorem grant_of_response (h : shelf.Agrees store) {m : Message} {request : Request}
    (hdispatch : (libraryAt options base).dispatch m = .request request)
    (hmethod : (m.method == "HEAD") = false) {response : Response}
    (hresponse : (store.perform ((libraryAt options base).respond m)).outcome =
      .ok response)
    (hstatus : response.status < 400) :
    ∃ grant, (shelf.serve options request).1 = .ok grant ∧ response = .ofGrant grant := by
  obtain ⟨outcome, houtcome, hshown, -⟩ := responds h hdispatch hmethod
  obtain rfl := Except.ok.inj (hshown.symm.trans hresponse)
  cases outcome with
  | ok grant => exact ⟨grant, houtcome.symm, rfl⟩
  | error problem =>
    have hproblem : problem.kind.status < 400 := hstatus
    revert hproblem
    cases problem.kind <;> exact fun hlt => absurd hlt (by decide)

end Shelf

/-- **A library that only messages have reached** agrees with a shelf of sound books. -/
theorem library_after_messages (options : Options) (base : Pattern) (messages : List Message) :
    ∃ shelf : Shelf, shelf.Sound ∧ shelf.Agrees (libraryBehind options base messages) := by
  have hkept : ∀ (store : Store Book) (request : Request),
      ((∃ shelf : Shelf, shelf.Agrees store) ∧ (⟨store, ∅⟩ : Session Book).Upholds Book.Shelved) →
      (∃ shelf : Shelf,
        shelf.Agrees (store.perform ((library options).handle request)).state.store) ∧
        (⟨(store.perform ((library options).handle request)).state.store, ∅⟩ :
          Session Book).Upholds Book.Shelved := by
    rintro store request ⟨⟨shelf, hagrees⟩, hupholds⟩
    obtain ⟨-, hafter⟩ := Shelf.serves options hagrees request
    have hkeeps := library_upholds options hupholds request
    exact ⟨⟨_, hafter⟩, .of_unstaged hkeeps.holds.committed rfl, hkeeps.positive⟩
  have hseed : (⟨.ofList Book.seed, ∅⟩ : Session Book).Upholds Book.Shelved :=
    ⟨.of_unstaged Book.shelved_seed rfl, (Store.ahead_ofList Book.seed).positive⟩
  obtain ⟨⟨shelf, hagrees⟩, hupholds⟩ := Routes.after_messages_keeps
    (libraryAt options base) hkept ⟨⟨_, Shelf.agrees_ofList Book.seed⟩, hseed⟩ messages
  refine ⟨shelf, fun id b hb => ?_, hagrees⟩
  have hcommitted : Book.Shelved id (some b) := by
    rw [← hb, ← hagrees.get?]
    exact hupholds.holds.committed id
  exact ⟨hcommitted.1, hcommitted.2.2⟩

end ResourceApi
