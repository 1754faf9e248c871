import ResourceApi.Proofs.Service.Stages
import ResourceApi.Proofs.Store.Sessions
import ResourceApi.Store.Answerer

/-!
# How a store answers

A store never crashes, and without planted faults its answers are those of the committed entities. A
transaction on such a store that stages one change goes through if the committed entities do not
contradict the change, and does to the store what the change says.

## Main definitions

- `Store.Alike` — two stores that differ in their tallies at most
-/

namespace ResourceApi

variable {E D α : Type}

namespace Store

/-- The stores differ in their tallies at most. -/
structure Alike (s s' : Store E) : Prop where
  entities : s.entities = s'.entities
  nextId : s.nextId = s'.nextId
  faults : s.faults = s'.faults

theorem toList_single (id : Int) (change : Staged E) :
    ((∅ : WriteSet E).insert id change).toList = [(id, change)] := by
  have hsize : ((∅ : WriteSet E).insert id change).toList.length = 1 := by
    rw [Std.ExtTreeMap.length_toList, Std.ExtTreeMap.size_insert]
    simp
  obtain ⟨entry, hentry⟩ := List.length_eq_one_iff.mp hsize
  have hmem : (id, change) ∈ ((∅ : WriteSet E).insert id change).toList :=
    Std.ExtTreeMap.mem_toList_iff_getElem?_eq_some.mpr Std.ExtTreeMap.getElem?_insert_self
  -- The only entry has to be the one that was inserted.
  rw [hentry] at hmem ⊢
  rw [List.mem_singleton.mp hmem]

theorem applyAll_single (s : Store E) (id : Int) (change : Staged E) :
    s.applyAll ((∅ : WriteSet E).insert id change) = s.applyStaged id change := by
  rw [applyAll, toList_single]
  rfl

theorem conflict?_single {s : Store E} {id : Int} {change : Staged E}
    (h : s.contradicts id change = false) :
    s.conflict? ((∅ : WriteSet E).insert id change) = none := by
  rw [conflict?, toList_single]
  simp [h]

theorem conflict?_single_of_contradicts {s : Store E} {id : Int} {change : Staged E}
    (h : s.contradicts id change = true) :
    s.conflict? ((∅ : WriteSet E).insert id change) = some id := by
  rw [conflict?, toList_single]
  simp [h]

end Store

namespace Session

theorem answer_calm [Entity E] : Calm (Session.answer (E := E)) := by
  intro x message
  constructor <;> nofun

/-! ## Openings -/

section Openings

variable [Entity E] {x : Session E}

theorem answer_begin_of_fault {failure : Failure} (h : x.store.faults.begin = some failure) :
    Session.answer .begin x = (.failed failure, x.begin.2) := by
  simp only [answer, begin, h]
  rfl

theorem answer_begin_of_faultless (h : x.store.faults.begin = none) :
    Session.answer .begin x = (.returned (), x.begin.2) := by
  simp only [answer, begin_of_faultless h]
  rfl

end Openings

/-! ## Calls on a store without planted faults -/

section Lookups

variable [Entity E] {x : Session E} (h : x.store.faults = Faults.none)
include h

theorem answer_findById_of_quiet (id : Int) :
    Session.answer (.findById id) x = (.returned (x.store.get? id), x) := by
  have hfault : x.store.faults.findById = none := by rw [h]; rfl
  simp only [answer, findById, hfault]
  rfl

theorem answer_contains_of_quiet (id : Int) :
    Session.answer (.contains id) x = (.returned (x.store.get? id).isSome, x) := by
  have hfault : x.store.faults.findById = none := by rw [h]; rfl
  simp only [answer, contains, findById, hfault]
  rfl

theorem answer_findAll_of_quiet (query : Query) :
    Session.answer (.findAll query) x = (.returned (x.store.select query), x) := by
  have hfault : x.store.faults.findAll = none := by rw [h]; rfl
  simp only [answer, findAll, hfault]
  rfl

end Lookups

theorem begin_of_quiet {x : Session E} (h : x.store.faults = Faults.none) :
    x.begin = (.ok (), ⟨x.store.withTally
      { x.store.tally with begun := x.store.tally.begun + 1 }, ∅⟩) :=
  begin_of_faultless (by rw [h]; rfl)

theorem visible_of_unstaged {x : Session E} (h : x.writes = ∅) (id : Int) :
    x.visible id = x.store.entities.contains id := by
  simp [visible, h]

/-- An entity without an identifier is staged under the next one. -/
theorem insert_of_quiet [Entity E] {x : Session E} {e : E} (hq : x.store.faults = Faults.none)
    (hw : x.writes = ∅) (he : ¬ 0 < Entity.id e)
    (hfree : x.store.entities.contains x.store.nextId = false) :
    x.insert e = (.ok (Entity.withId e x.store.nextId),
      ⟨{ x.store with nextId := x.store.nextId + 1 },
        (∅ : WriteSet E).insert x.store.nextId (.insert (Entity.withId e x.store.nextId))⟩) := by
  have hvisible : x.drawId.visible x.store.nextId = false :=
    (visible_of_unstaged hw x.store.nextId).trans hfree
  have hfault : x.store.faults.mutation = none := by rw [hq]; rfl
  simp only [insert, unlessFaulty, hfault, he, if_false, insertAt, hvisible]
  simp [drawId, stageInsert, stage, hw]

/-- An entity whose identifier is taken is staged in the place of the one there. -/
theorem update_of_quiet [Entity E] {x : Session E} {e : E} (hq : x.store.faults = Faults.none)
    (hw : x.writes = ∅) (htaken : x.store.entities.contains (Entity.id e) = true) :
    x.update e =
      (.ok e, ⟨x.store, (∅ : WriteSet E).insert (Entity.id e) (.update e)⟩) := by
  have hvisible : x.visible (Entity.id e) = true := (visible_of_unstaged hw _).trans htaken
  simp only [update, unlessFaulty, hq, Faults.none, hvisible, if_true]
  simp [stageUpdate, stage, hw]

/-- The removal of an identifier that is taken is staged. -/
theorem delete_of_quiet {x : Session E} {id : Int} (hq : x.store.faults = Faults.none)
    (hw : x.writes = ∅) (htaken : x.store.entities.contains id = true) :
    x.delete id = (.ok true, ⟨x.store, (∅ : WriteSet E).insert id .delete⟩) := by
  have hvisible : x.visible id = true := (visible_of_unstaged hw _).trans htaken
  simp only [delete, unlessFaulty, hq, Faults.none, hvisible, if_true]
  simp [stageDelete, stage, hw]

/-- An entity whose identifier is free is put in no place. -/
theorem update_of_free [Entity E] {x : Session E} {e : E} (hq : x.store.faults = Faults.none)
    (hw : x.writes = ∅) (hfree : x.store.entities.contains (Entity.id e) = false) :
    x.update e = (.error (.notFound "entity" (Number.decimal (Entity.id e))), x) := by
  have hvisible : x.visible (Entity.id e) = false := (visible_of_unstaged hw _).trans hfree
  simp [update, unlessFaulty, hq, Faults.none, hvisible]

/-- There is nothing to remove under an identifier that is free. -/
theorem delete_of_free {x : Session E} {id : Int} (hq : x.store.faults = Faults.none)
    (hw : x.writes = ∅) (hfree : x.store.entities.contains id = false) :
    x.delete id = (.ok false, x) := by
  have hvisible : x.visible id = false := (visible_of_unstaged hw _).trans hfree
  simp [delete, unlessFaulty, hq, Faults.none, hvisible]

/-- A merged entity whose identifier is taken is staged in the place of the one there. -/
theorem answer_updatePartial_of_quiet [Entity E] {x : Session E} {e : E}
    (hq : x.store.faults = Faults.none) (hw : x.writes = ∅)
    (htaken : x.store.entities.contains (Entity.id e) = true) :
    Session.answer (.updatePartial e) x =
      (.returned e, ⟨x.store, (∅ : WriteSet E).insert (Entity.id e) (.update e)⟩) := by
  simp only [answer, update_of_quiet hq hw htaken]
  rfl

/-- A commit of one change that the committed entities do not contradict applies it. -/
theorem answer_commit_single [Entity E] {x : Session E} {id : Int} {change : Staged E}
    (hf : x.store.faults.commit = none) (hw : x.writes = (∅ : WriteSet E).insert id change)
    (hc : x.store.contradicts id change = false) :
    Session.answer .commit x = (.returned (), ⟨(x.store.applyStaged id change).withTally
      { x.store.tally with committed := x.store.tally.committed + 1 }, ∅⟩) := by
  have hconflict : x.store.conflict? x.writes = none := by
    rw [hw]
    exact Store.conflict?_single hc
  simp only [answer, commit_of_agreement hf hconflict, hw, Store.applyAll_single]
  rfl

/-- A commit of one change that the committed entities contradict fails. -/
theorem answer_commit_single_of_contradicts [Entity E] {x : Session E} {id : Int}
    {change : Staged E} (hf : x.store.faults.commit = none)
    (hw : x.writes = (∅ : WriteSet E).insert id change)
    (hc : x.store.contradicts id change = true) :
    Session.answer .commit x =
      (.failed (.transactionFailed .commit (conflictMessage id)), x) := by
  have hconflict : x.store.conflict? x.writes = some id := by
    rw [hw]
    exact Store.conflict?_single_of_contradicts hc
  simp only [answer, commit_of_conflict hf hconflict]
  rfl

end Session

namespace Service

variable [Entity E] (s : Service E D)

/-- A transaction that stages one change which the committed entities do not contradict goes
through, and leaves the store with that change applied. -/
theorem transact_single {x : Session E} (hq : x.store.faults = Faults.none)
    {w : Work E (Session E) α} {value : α} {y : Store E} {id : Int} {change : Staged E}
    (hact : w.act (Session.answer .begin x).2 =
      (.returned value, ⟨y, (∅ : WriteSet E).insert id change⟩))
    (hy : y.faults = Faults.none) (hc : y.contradicts id change = false) (operation : Operation)
    (about : Option Int) :
    s.transactVerdict Session.answer operation about w x = .ok value ∧
      (transactState Session.answer w x).store.Alike (y.applyStaged id change) := by
  have hbegin : (Session.answer .begin x).1 = .returned () :=
    congrArg Prod.fst (Session.answer_begin_of_faultless (by rw [hq]; rfl))
  have hreply : Session.answer .commit ⟨y, (∅ : WriteSet E).insert id change⟩ =
      (.returned (), ⟨(y.applyStaged id change).withTally
        { y.tally with committed := y.tally.committed + 1 }, ∅⟩) :=
    Session.answer_commit_single (by rw [hy]; rfl) rfl hc
  constructor
  · unfold transactVerdict
    rw [hbegin, hact]
    dsimp only
    rw [hreply]
    rfl
  · unfold transactState endState
    rw [hbegin, hact]
    dsimp only
    rw [hreply]
    exact ⟨rfl, rfl, rfl⟩

end Service

end ResourceApi
