import ResourceApi.Proofs.Service.Finalization
import ResourceApi.Proofs.Store.Changes
import ResourceApi.Proofs.Store.Endings

/-!
# What a request for a new entity stores

A new entity is stored when its transaction goes through, and only then. The answer shows the entity
as it was stored, so it is rendered behind the commit: a request whose answer cannot be rendered is
refused although its entity is there.

## Main definitions

- `Store.Gains` — a store has gained an entity
- `Service.savedVerdict` — the stages of a request for a new entity up to its commit

## Main results

- `Service.create_cases` — what a request for a new entity stores
- `Service.refused_create_cases` — the same of a request that is refused
-/

namespace ResourceApi

variable {E D : Type} [Entity E]

namespace Store

/-- The store has gained an entity at its place, which was free, and nothing else. -/
structure Gains (s s' : Store E) (e : E) : Prop where
  free : s.get? (s.placed e).1 = none
  entities : s'.entities = s.entities.insert (s.placed e).1 (s.placed e).2

end Store

namespace Session

/-- The first insert of a transaction, if it succeeds, stages the entity at its place, which is
free. -/
theorem insert_of_unstaged {x : Session E} (hw : x.writes = ∅) {e saved : E}
    (h : (x.insert e).1 = .ok saved) :
    saved = (x.store.placed e).2 ∧ x.store.get? (x.store.placed e).1 = none ∧
      (x.insert e).2.writes = (∅ : WriteSet E).insert (x.store.placed e).1 (.insert saved) := by
  rcases x.insert_cases e with ⟨failure, hfailed, -⟩ | ⟨hok, hvisible, hstaged⟩
  · rw [h] at hfailed
    cases hfailed
  · obtain rfl : saved = (x.store.placed e).2 := Except.ok.inj (h.symm.trans hok)
    rw [visible_of_unstaged hw, Store.contains_entities] at hvisible
    refine ⟨rfl, Option.not_isSome_iff_eq_none.mp (Bool.eq_false_iff.mp hvisible), ?_⟩
    refine Std.ExtTreeMap.ext_getElem? fun {other} => ?_
    rw [hstaged, hw, Std.ExtTreeMap.getElem?_insert, Std.ExtTreeMap.getElem?_empty]
    simp only [Staged.inserted, Std.compare_eq_iff_eq, @eq_comm _ other]

end Session

omit [Entity E] in
theorem Course.ofVerdict_proceed_granted {σ α : Type} (verdict : Verdict α) (y : σ)
    (calls : List (Call E)) (grant : α → Grant) :
    (ofVerdict verdict y calls).proceed (fun a y => .granted (grant a) y) =
      ofVerdict (verdict.map grant) y calls := by
  cases verdict with
  | error stop => exact ofVerdict_proceed_stop stop y calls _
  | ok a => simp [granted, ofVerdict, Verdict.outcome, Except.map, after]

namespace Service

variable (s : Service E D)

/-- The stages of a request for a new entity up to its commit: the entity as it is stored, or what
stops the request. -/
def savedVerdict (body : Bytes) (x : Session E) : Verdict E := do
  let document ← s.documentVerdict .create s.resource.checkCreate body
  s.transactVerdict Session.answer .create none
    (.insert Session.answer (s.resource.create document none)) x

/-- The answer that shows a new entity as it is stored. -/
def createdVerdict (accept : Option String) (saved : E) : Verdict Grant :=
  (s.showOne .create accept (s.resource.present saved)).map fun shown =>
    { Grant.created shown with location := s.location? (s.resource.identify saved) }

/-- The transaction of a new entity stores it, or nothing. -/
theorem transact_insert_cases (made : Except String E) (x : Session E) :
    let w := Work.insert Session.answer made
    let verdict := s.transactVerdict Session.answer .create none w x
    let after := transactState Session.answer w x
    (∃ e, made = .ok e ∧ verdict = .ok (x.store.placed e).2 ∧ x.store.Gains after.store e) ∨
      (∃ stop, verdict = .error stop ∧ after.store.entities = x.store.entities) := by
  intro w verdict after
  have hkept : (w.act x.begin.2).2.store.entities = x.store.entities := by
    refine Eq.trans ?_ x.begin_entities
    cases made with
    | ok e => exact Session.insert_keeps Store.steady_entities x.begin.2 e
    | error message => rfl
  rcases s.transact_cases .create none w x with
    ⟨saved, hverdict, hbegin, hsaved, hpublished⟩ | ⟨stop, hverdict, hafter | hdiscarded⟩
  · refine .inl ?_
    cases made with
    | error message => cases hsaved
    | ok e =>
      have hopen := Session.begin_of_faultless hbegin
      have hinsert : (x.begin.2.insert e).1 = .ok saved := by
        change Reply.ofExcept (x.begin.2.insert e).1 = _ at hsaved
        revert hsaved
        cases (x.begin.2.insert e).1 <;> simp [Reply.ofExcept]
      obtain ⟨rfl, hfree, hwrites⟩ :=
        Session.insert_of_unstaged (show x.begin.2.writes = ∅ by rw [hopen]) hinsert
      have hplaced : x.begin.2.store.placed e = x.store.placed e := by
        rw [hopen]
        rfl
      rw [hplaced] at hfree hwrites hverdict
      refine ⟨e, rfl, hverdict, ?_, ?_⟩
      · rw [hopen] at hfree
        exact hfree
      · have hdone : (w.act x.begin.2).2.writes = _ := hwrites
        rw [hpublished.entities, hdone, Store.applyAll_single, Store.applyStaged, hkept]
  · exact .inr ⟨stop, hverdict, hafter⟩
  · exact .inr ⟨stop, hverdict, hdiscarded.entities.trans hkept⟩

/-- **What a request for a new entity stores**: nothing, if it is stopped before the commit is done,
and else the entity, whether its answer can be rendered or not. -/
theorem create_cases (x : Session E) (body : Bytes) (accept : Option String) :
    let ran := (s.handle (.create body accept)).run Session.answer x
    (∃ stop, s.savedVerdict body x = .error stop ∧
        ran.outcome = Verdict.outcome (.error stop) ∧
        ran.state.store.entities = x.store.entities) ∨
      (∃ document e, s.resource.read body = some document ∧
        s.resource.create document none = .ok e ∧
        s.savedVerdict body x = .ok (x.store.placed e).2 ∧
        x.store.Gains ran.state.store e ∧
        ran.outcome = (s.createdVerdict accept (x.store.placed e).2).outcome) := by
  intro ran
  have hcourse : (⟨ran.outcome, ran.state, ran.calls⟩ : Course E (Session E) _) = _ :=
    s.course_create Session.answer_calm body accept x
  unfold savedVerdict
  cases hdocument : s.documentVerdict .create s.resource.checkCreate body with
  | error stop =>
    rw [hdocument, Course.ofVerdict_proceed_stop] at hcourse
    exact .inl ⟨stop, rfl, congrArg Course.outcome hcourse,
      congrArg (fun c => c.state.store.entities) hcourse⟩
  | ok document =>
    rw [hdocument, Course.ofVerdict_proceed_ok, Course.after_nil, transactCourse] at hcourse
    rcases s.transact_insert_cases (s.resource.create document none) x with
      ⟨e, hmade, hverdict, hgains⟩ | ⟨stop, hverdict, hkept⟩
    · -- Rendering the answer calls nothing, so the state is that behind the transaction.
      rw [hverdict, Course.ofVerdict_proceed_ok, Course.ofVerdict_proceed_granted] at hcourse
      have hstate : ran.state = _ := congrArg Course.state hcourse
      refine .inr ⟨document, e, (s.documentVerdict_eq_ok_iff.mp hdocument).1, hmade, hverdict, ?_,
        congrArg Course.outcome hcourse⟩
      rw [hstate]
      exact hgains
    · rw [hverdict, Course.ofVerdict_proceed_stop] at hcourse
      exact .inl ⟨stop, hverdict, congrArg Course.outcome hcourse,
        (congrArg (fun c => c.state.store.entities) hcourse).trans hkept⟩

theorem outcome_eq_refused_iff {α : Type} {verdict : Verdict α} {problem : Problem} :
    verdict.outcome = .ok (.error problem) ↔ verdict = .error (.refused problem) := by
  rcases verdict with ⟨problem | message⟩ | a <;> simp [Verdict.outcome]

omit [Entity E] in
/-- Only JSON can fail to be rendered. -/
theorem createdVerdict_refused {accept : Option String} {saved : E} {problem : Problem}
    (h : s.createdVerdict accept saved = .error (.refused problem)) :
    Representation.negotiate accept = .json ∧
      ∃ reason, s.resource.json (s.resource.present saved) = .error reason ∧
        problem = s.internal .create none reason := by
  unfold createdVerdict showOne renderVerdict at h
  cases hform : Representation.negotiate accept with
  | xml =>
    simp only [hform] at h
    cases h
  | json =>
    simp only [hform] at h
    cases hjson : s.resource.json (s.resource.present saved) with
    | ok node =>
      simp only [hjson] at h
      cases h
    | error reason =>
      simp only [hjson] at h
      exact ⟨rfl, reason, rfl, (Stop.refused.inj (Except.error.inj h)).symm⟩

/-- **A refused request for a new entity** has stored nothing if it is refused in one of the stages
up to the commit. Behind the commit it is refused only if the answer cannot be written as JSON, and
then exactly the new entity has been stored, at its place, which was free. -/
theorem refused_create_cases (x : Session E) (body : Bytes) (accept : Option String)
    (problem : Problem)
    (h : ((s.handle (.create body accept)).run Session.answer x).outcome = .ok (.error problem)) :
    let after := ((s.handle (.create body accept)).run Session.answer x).state.store
    (s.savedVerdict body x = .error (.refused problem) ∧
        after.entities = x.store.entities) ∨
      (∃ document e reason, s.resource.read body = some document ∧
        s.resource.create document none = .ok e ∧
        s.savedVerdict body x = .ok (x.store.placed e).2 ∧
        Representation.negotiate accept = .json ∧
        s.resource.json (s.resource.present (x.store.placed e).2) = .error reason ∧
        problem = s.internal .create none reason ∧
        x.store.Gains after e) := by
  intro after
  rcases s.create_cases x body accept with
    ⟨stop, hverdict, houtcome, hkept⟩ | ⟨document, e, hread, hmade, hverdict, hgains, houtcome⟩
  · rw [houtcome, outcome_eq_refused_iff] at h
    obtain rfl : stop = .refused problem := Except.error.inj h
    exact .inl ⟨hverdict, hkept⟩
  · rw [houtcome, outcome_eq_refused_iff] at h
    obtain ⟨hform, reason, hjson, hproblem⟩ := s.createdVerdict_refused h
    exact .inr ⟨document, e, reason, hread, hmade, hverdict, hform, hjson, hproblem, hgains⟩

def full : Store Item :=
  (Store.ofList [⟨1, "pen", 5, none⟩]).withFaults { Faults.none with commit := some "disk full" }

def cap : Bytes := Text.utf8 "[null, \"cap\", 1]"

/-- An item is not stored if the commit fails. -/
theorem refused_create_full :
    ∃ problem,
      ((stock.handle (.create cap none)).run Session.answer ⟨full, ∅⟩).outcome =
          .ok (.error problem) ∧
        ((stock.handle (.create cap none)).run Session.answer ⟨full, ∅⟩).state.store.entities =
          full.entities := by
  have hread : stock.resource.read cap = some ⟨none, some "cap", some 1, none⟩ := by
    decide +kernel
  obtain ⟨problem, hverdict⟩ : ∃ problem,
      stock.savedVerdict cap ⟨full, ∅⟩ = .error (.refused problem) := by
    unfold savedVerdict documentVerdict
    rw [hread]
    exact ⟨_, rfl⟩
  have houtcome : ((stock.handle (.create cap none)).run Session.answer ⟨full, ∅⟩).outcome =
      .ok (.error problem) := by
    rcases stock.create_cases ⟨full, ∅⟩ cap none with
      ⟨stop, hstop, houtcome, -⟩ | ⟨document, e, -, -, hsaved, -⟩
    · obtain rfl : Stop.refused problem = stop := Except.error.inj (hverdict.symm.trans hstop)
      exact houtcome
    · rw [hverdict] at hsaved
      cases hsaved
  refine ⟨problem, houtcome, ?_⟩
  rcases refused_create_cases stock ⟨full, ∅⟩ cap none problem houtcome with
    ⟨-, hkept⟩ | ⟨document, e, reason, -, -, hsaved, -⟩
  · exact hkept
  · rw [hverdict] at hsaved
    cases hsaved

/-- A body that describes an item with a name that cannot be written as JSON. -/
def unrenderable : Bytes := Text.utf8 "[null, \"UNRENDERABLE\", 1]"

/-- Such an item is stored, although the request for it is refused. -/
theorem unrenderable_create_stores :
    let x : Session Item := ⟨.ofList [], ∅⟩
    let ran := (stock.handle (.create unrenderable none)).run Session.answer x
    ran.outcome = .ok (.error (stock.internal .create none "name cannot be rendered")) ∧
      ran.state.store.entities ≠ x.store.entities ∧
      ran.state.store.get? 1 = some ⟨1, "UNRENDERABLE", 1, none⟩ := by
  intro x ran
  have hread : stock.resource.read unrenderable =
      some ⟨none, some "UNRENDERABLE", some 1, none⟩ := by
    decide +kernel
  have hverdict : stock.savedVerdict unrenderable x = .ok ⟨1, "UNRENDERABLE", 1, none⟩ := by
    unfold savedVerdict documentVerdict
    rw [hread]
    rfl
  rcases stock.create_cases x unrenderable none with
    ⟨stop, hstop, -, -⟩ | ⟨document, e, hdocument, hmade, -, hgains, houtcome⟩
  · rw [hverdict] at hstop
    cases hstop
  · obtain rfl : document = _ := Option.some.inj (hdocument.symm.trans hread)
    obtain rfl : ⟨0, "UNRENDERABLE", 1, none⟩ = e := Except.ok.inj hmade
    have hfound : ran.state.store.get? 1 = some ⟨1, "UNRENDERABLE", 1, none⟩ := by
      rw [Store.get?, hgains.entities]
      rfl
    refine ⟨houtcome.trans rfl, ?_, hfound⟩
    intro hsame
    have hfree : x.store.get? 1 = none := rfl
    rw [Store.get?, ← hsame, ← Store.get?, hfound] at hfree
    cases hfree

end Service

end ResourceApi
