import ResourceApi.Proofs.Catalog.Library

/-!
# The library serves as its shelf does

The service of books over a store answers every request as the shelf does and leaves the store as
the shelf is left, request after request.

## Main definitions

- `Course.Serves` — a course ends as a request to the shelf does
- `Service.visits` — the outcomes of several requests, each with the store behind it
-/

namespace ResourceApi

variable {E D α : Type}

/-- A course ends as a request to the shelf does. -/
def Course.Serves (c : Course Book (Session Book) (Except Problem Grant))
    (visit : Shelf.Outcome × Shelf) : Prop :=
  c.outcome.map (Except.mapError Problem.kind) = .ok visit.1 ∧ visit.2.Agrees c.state.store

namespace Course

variable {shelf : Shelf} {y : Session Book} {calls : List (Call Book)} {verdict : Verdict α}
  {next : α → Session Book → Course Book (Session Book) (Except Problem Grant)}

theorem serves_granted (h : shelf.Agrees y.store) (grant : Grant) :
    (granted grant y).Serves (.ok grant, shelf) :=
  ⟨rfl, h⟩

theorem serves_stop {problem : Problem} {kind : Problem.Kind}
    (hv : verdict = .error (.refused problem)) (hk : problem.kind = kind)
    (h : shelf.Agrees y.store) :
    ((ofVerdict verdict y calls).proceed next).Serves (.error kind, shelf) := by
  subst hv hk
  rw [ofVerdict_proceed_stop]
  exact ⟨rfl, h⟩

theorem serves_go {visit : Shelf.Outcome × Shelf} {a : α} (hv : verdict = .ok a)
    (h : (next a y).Serves visit) : ((ofVerdict verdict y calls).proceed next).Serves visit := by
  subst hv
  rw [ofVerdict_proceed_ok]
  exact h

end Course

namespace Shelf

variable {shelf : Shelf} {store : Store Book} (options : Options)

/-! ## One request -/

theorem serves_list (h : shelf.Agrees store) (pairs : List (String × String))
    (accept : Option String) :
    (Stage.course Session.answer ((library options).list pairs accept) ⟨store, ∅⟩).Serves
      (shelf.serve options (.list pairs accept)) := by
  rw [Service.course_list, serve]
  cases hbuild : Query.build Book.schema options.limits (pairs.map Book.expand) with
  | error e =>
    have hquery : (library options).queryVerdict pairs = .error (.refused (.ofFilterError e)) := by
      simp only [Service.queryVerdict, library, Book.resource, hbuild]
    exact Course.serves_stop hquery rfl h
  | ok q =>
    have hquery : (library options).queryVerdict pairs = .ok q := by
      simp only [Service.queryVerdict, library, Book.resource, hbuild]
    refine Course.serves_go hquery ?_
    rw [Session.answer_findAll_of_quiet (x := ⟨store, ∅⟩) h.quiet]
    have hlisted : (library options).listVerdict Session.answer q ⟨store, ∅⟩ =
        .ok (shelf.select q) := by
      unfold Service.listVerdict Script.Answerer.listed
      rw [Session.answer_findAll_of_quiet h.quiet, h.select]
      rfl
    refine Course.serves_go hlisted ?_
    exact Course.serves_go (showAll_eq options .list accept _) (Course.serves_granted h _)

theorem serves_get (h : shelf.Agrees store) (id : Int) (accept : Option String) :
    (Stage.course Session.answer ((library options).get id accept) ⟨store, ∅⟩).Serves
      (shelf.serve options (.get id accept)) := by
  rw [Service.course_get, serve]
  by_cases hid : id ≤ 0
  · rw [if_pos hid]
    exact Course.serves_stop (identifierVerdict_of_not_pos hid) rfl h
  rw [if_neg hid]
  refine Course.serves_go (identifierVerdict_of_pos hid) ?_
  rw [Session.answer_findById_of_quiet (x := ⟨store, ∅⟩) h.quiet]
  cases hb : shelf.books[id]? with
  | none => exact Course.serves_stop (findVerdict_of_none options h .get hb) rfl h
  | some b =>
    refine Course.serves_go (findVerdict_of_some options h .get hb) ?_
    exact Course.serves_go (showOne_eq options .get accept b) (Course.serves_granted h _)

theorem serves_create (h : shelf.Agrees store) (body : Bytes) (accept : Option String) :
    (Stage.course Session.answer ((library options).create body accept) ⟨store, ∅⟩).Serves
      (shelf.serve options (.create body accept)) := by
  rw [Service.course_create _ Session.answer_calm, serve]
  rcases documentVerdict_cases options .create Book.checkWhole body with
    ⟨problem, hkind, haccepted, hverdict⟩ | ⟨d, haccepted, hverdict⟩
  · rw [haccepted]
    exact Course.serves_stop hverdict hkind h
  · rw [haccepted]
    refine Course.serves_go hverdict ?_
    -- A draft without a path leads to a book without an identifier, whatever it claims.
    have hb : ¬ 0 < (Book.ofDraft d none).id := by simp [Book.ofDraft]
    obtain ⟨hsaved, hafter⟩ := transact_insert options h hb
    refine Course.serves_go hsaved ?_
    exact Course.serves_go (showOne_eq options .create accept _) (Course.serves_granted hafter _)

/-- Requests that bring a draft about one book go on with the draft, if it is accepted. -/
theorem serves_accepted (h : shelf.Agrees store) (operation : Operation)
    (rules : Book.Draft → Except Violations Unit) (id : Int) (body : Bytes)
    {next : Book.Draft → Session Book → Course Book (Session Book) (Except Problem Grant)}
    {visit : Book.Draft → Outcome × Shelf}
    (hnext : ∀ d, (next d ⟨store, ∅⟩).Serves (visit d)) :
    ((Course.ofVerdict ((library options).documentVerdict operation rules body) ⟨store, ∅⟩
        []).proceed fun d x =>
      (Course.ofVerdict ((library options).agreementVerdict operation id d) x
        []).proceed fun _ x => next d x).Serves
      (match acceptedFor rules id body with
        | none => (.error .validationFailed, shelf)
        | some d => visit d) := by
  unfold acceptedFor
  rcases documentVerdict_cases options operation rules body with
    ⟨problem, hkind, haccepted, hverdict⟩ | ⟨d, haccepted, hverdict⟩
  · rw [haccepted]
    exact Course.serves_stop hverdict hkind h
  · rw [haccepted]
    refine Course.serves_go hverdict ?_
    rcases agreementVerdict_cases options operation id d with
      ⟨problem, hkind, hid, hverdict⟩ | ⟨hid, hverdict⟩
    · rw [Option.filter_some, if_neg (by simp [hid])]
      exact Course.serves_stop hverdict hkind h
    · rw [Option.filter_some, if_pos hid]
      exact Course.serves_go hverdict (hnext d)

theorem serves_update (h : shelf.Agrees store) (id : Int) (body : Bytes) :
    (Stage.course Session.answer ((library options).update id body) ⟨store, ∅⟩).Serves
      (shelf.serve options (.update id body)) := by
  rw [Service.course_update _ Session.answer_calm, serve]
  by_cases hid : id ≤ 0
  · rw [if_pos hid]
    exact Course.serves_stop (identifierVerdict_of_not_pos hid) rfl h
  rw [if_neg hid]
  refine Course.serves_go (identifierVerdict_of_pos hid) ?_
  rw [Session.answer_contains_of_quiet (x := ⟨store, ∅⟩) h.quiet]
  cases hb : shelf.books[id]? with
  | none => exact Course.serves_stop (existenceVerdict_of_none options h .update hb) rfl h
  | some b =>
    refine Course.serves_go (existenceVerdict_of_some options h .update hb) ?_
    refine serves_accepted options h .update Book.checkWhole id body fun d => ?_
    have hfiled : (Book.ofDraft d (some id)).id = id := rfl
    obtain ⟨hsaved, hafter⟩ := transact_replace options h hfiled (Option.isSome_of_eq_some hb)
      (w := Work.update Session.answer (.ok (Book.ofDraft d (some id)))) rfl .update
    exact Course.serves_go hsaved (Course.serves_granted hafter _)

theorem serves_updatePartial (h : shelf.Agrees store) (id : Int) (body : Bytes) :
    (Stage.course Session.answer ((library options).updatePartial id body) ⟨store, ∅⟩).Serves
      (shelf.serve options (.updatePartial id body)) := by
  rw [Service.course_updatePartial _ Session.answer_calm, serve]
  by_cases hid : id ≤ 0
  · rw [if_pos hid]
    exact Course.serves_stop (identifierVerdict_of_not_pos hid) rfl h
  rw [if_neg hid]
  refine Course.serves_go (identifierVerdict_of_pos hid) ?_
  rw [Session.answer_findById_of_quiet (x := ⟨store, ∅⟩) h.quiet]
  cases hb : shelf.books[id]? with
  | none => exact Course.serves_stop (findVerdict_of_none options h .updatePartial hb) rfl h
  | some b =>
    refine Course.serves_go (findVerdict_of_some options h .updatePartial hb) ?_
    refine serves_accepted options h .updatePartial Book.checkParts id body fun d => ?_
    -- The merged book keeps the identifier of the one it is made from.
    have hfiled : (b.merge d).id = id := h.tidy.filed id b hb
    obtain ⟨hsaved, hafter⟩ := transact_replace options h hfiled (Option.isSome_of_eq_some hb)
      (w := Work.updatePartial Session.answer (.ok (b.merge d))) rfl .updatePartial
    exact Course.serves_go hsaved (Course.serves_granted hafter _)

theorem serves_delete (h : shelf.Agrees store) (id : Int) :
    (Stage.course Session.answer ((library options).delete id) ⟨store, ∅⟩).Serves
      (shelf.serve options (.delete id)) := by
  rw [Service.course_delete _ Session.answer_calm, serve]
  by_cases hid : id ≤ 0
  · rw [if_pos hid]
    exact Course.serves_stop (identifierVerdict_of_not_pos hid) rfl h
  rw [if_neg hid]
  refine Course.serves_go (identifierVerdict_of_pos hid) ?_
  rcases policyVerdict_cases options id with
    ⟨problem, hkind, hfeatured, hverdict⟩ | ⟨hfeatured, hverdict⟩
  · rw [if_pos hfeatured]
    exact Course.serves_stop hverdict hkind h
  rw [if_neg (by rw [hfeatured]; exact Bool.false_ne_true)]
  refine Course.serves_go hverdict ?_
  rw [Session.answer_contains_of_quiet (x := ⟨store, ∅⟩) h.quiet]
  cases hb : shelf.books[id]? with
  | none => exact Course.serves_stop (existenceVerdict_of_none options h .delete hb) rfl h
  | some b =>
    refine Course.serves_go (existenceVerdict_of_some options h .delete hb) ?_
    obtain ⟨hremoved, hafter⟩ := transact_delete options h (Option.isSome_of_eq_some hb)
    exact Course.serves_go hremoved (Course.serves_granted hafter _)

/-- **One request**: the library answers as its shelf does, and agrees with it afterwards. -/
theorem serves (h : shelf.Agrees store) (request : Request) :
    (Stage.course Session.answer ((library options).stages request) ⟨store, ∅⟩).Serves
      (shelf.serve options request) := by
  cases request with
  | list pairs accept => exact serves_list options h pairs accept
  | get id accept => exact serves_get options h id accept
  | create body accept => exact serves_create options h body accept
  | update id body => exact serves_update options h id body
  | updatePartial id body => exact serves_updatePartial options h id body
  | delete id => exact serves_delete options h id

end Shelf

/-! ## Several requests -/

/-- The outcomes of requests that a service handles one after the other, each with the store behind
it. -/
def Service.visits [Entity E] (s : Service E D) (store : Store E) :
    List Request → List (Except String (Except Problem Grant) × Store E)
  | [] => []
  | request :: requests =>
    let run := store.perform (s.handle request)
    (run.outcome, run.state.store) :: s.visits run.state.store requests

theorem Shelf.visits_of_agrees (options : Options) (requests : List Request) {shelf : Shelf}
    {store : Store Book} (h : shelf.Agrees store) :
    ((library options).visits store requests).map (fun visit =>
        (visit.1.map (Except.mapError Problem.kind), visit.2.entities, visit.2.nextId)) =
      (shelf.serveAll options requests).map fun visit =>
        (.ok visit.1, visit.2.books, visit.2.counter) := by
  induction requests generalizing shelf store with
  | nil => rfl
  | cons request requests ih =>
    -- Each request leaves an agreeing store for those behind it.
    obtain ⟨houtcome, hagrees⟩ := serves options h request
    rw [Service.visits, Shelf.serveAll, List.map_cons, List.map_cons]
    refine List.cons_eq_cons.mpr ⟨?_, ih hagrees⟩
    exact Prod.ext houtcome (Prod.ext hagrees.books hagrees.counter)

/-- **The library simulates its shelf**: started with the same books, every request of every
sequence is answered as on the shelf, and leaves the same books under the same identifiers and the
same identifier to come next. -/
theorem library_simulates_shelf (options : Options) (books : List Book)
    (requests : List Request) :
    ((library options).visits (Store.ofList books) requests).map (fun visit =>
        (visit.1.map (Except.mapError Problem.kind), visit.2.entities, visit.2.nextId)) =
      ((Shelf.ofList books).serveAll options requests).map fun visit =>
        (.ok visit.1, visit.2.books, visit.2.counter) :=
  Shelf.visits_of_agrees options requests (Shelf.agrees_ofList books)

end ResourceApi
