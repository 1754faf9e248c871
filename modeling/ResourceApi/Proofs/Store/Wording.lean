import ResourceApi.Proofs.Likeness
import ResourceApi.Proofs.Store.Sessions

/-!
# Stores whose faults have other words

A planted fault strikes in the words it was planted with. Two stores that hold the same entities,
and have faults planted for the same calls, answer every call alike, and go on to do so.

## Main definitions

- `Faults.Alike` — faults planted for the same calls
- `Session.Alike` — sessions that differ at most in the words of planted faults

## Main results

- `Session.answer_alike` — they answer alike
-/

namespace ResourceApi

variable {E α : Type}

/-- Faults planted for the same calls, in whatever words. -/
structure Faults.Alike (f g : Faults) : Prop where
  mutation : Option.Rel AnyWords f.mutation g.mutation
  commit : Option.Rel AnyWords f.commit g.commit
  refuseDelete : f.refuseDelete = g.refuseDelete
  findAll : Option.Rel AnyWords f.findAll g.findAll
  findById : Option.Rel AnyWords f.findById g.findById
  begin : Option.Rel AnyWords f.begin g.begin

theorem Store.applyAll_withFaults (s : Store E) (faults : Faults) (writes : WriteSet E) :
    (s.withFaults faults).applyAll writes = (s.applyAll writes).withFaults faults := by
  rw [applyAll_eq_applyList, applyAll_eq_applyList]
  -- One change looks at no fault and leaves the faults as they are, so it can be made before or
  -- behind the planting.
  generalize writes.toList = changes
  induction changes generalizing s with
  | nil => rfl
  | cons entry changes ih =>
    have hone : (s.withFaults faults).applyStaged entry.1 entry.2 =
        (s.applyStaged entry.1 entry.2).withFaults faults := by
      cases entry.2 <;> rfl
    rw [applyList, applyList, List.foldl_cons, List.foldl_cons, hone]
    exact ih _

theorem Store.faults_applyAll (s : Store E) (writes : WriteSet E) :
    (s.applyAll writes).faults = s.faults :=
  applyList_keeps Store.faults (fun _ _ change => by cases change <;> rfl) s writes.toList

namespace Session

/-- The session with other faults planted. -/
def refaulted (x : Session E) (faults : Faults) : Session E := ⟨x.store.withFaults faults, x.writes⟩

/-- Sessions that differ at most in the words of planted faults. -/
def Alike (x y : Session E) : Prop :=
  ∃ faults, x.store.faults.Alike faults ∧ y = x.refaulted faults

/-- Answers that differ at most in words, from sessions that go on to do so. -/
def AnswersAlike (p q : Except Failure α × Session E) : Prop :=
  Outcome.Alike AnyWords Eq p.1 q.1 ∧ p.2.Alike q.2

variable {x : Session E} {faults : Faults}

/-- Whether a planted fault strikes does not depend on its words. -/
theorem planted_cases {β γ : Type} {planted : Option β} {planted' : Option γ}
    (h : Option.Rel AnyWords planted planted') :
    planted = none ∧ planted' = none ∨
      ∃ words words', planted = some words ∧ planted' = some words' := by
  cases h with
  | none => exact .inl ⟨rfl, rfl⟩
  | some _ => exact .inr ⟨_, _, rfl, rfl⟩

/-! ## Staging -/

theorem stageInsert_refaulted (id : Int) (e : E) :
    (x.refaulted faults).stageInsert id e = (x.stageInsert id e).refaulted faults := by
  have hwrites : (x.refaulted faults).writes = x.writes := rfl
  unfold stageInsert
  rw [hwrites]
  cases x.writes[id]? with
  | none => rfl
  | some change => cases change <;> rfl

theorem stageUpdate_refaulted (id : Int) (e : E) :
    (x.refaulted faults).stageUpdate id e = (x.stageUpdate id e).refaulted faults := by
  have hwrites : (x.refaulted faults).writes = x.writes := rfl
  unfold stageUpdate
  rw [hwrites]
  cases x.writes[id]? with
  | none => rfl
  | some change => cases change <;> rfl

theorem stageDelete_refaulted (id : Int) :
    (x.refaulted faults).stageDelete id = (x.stageDelete id).refaulted faults := by
  have hwrites : (x.refaulted faults).writes = x.writes := rfl
  unfold stageDelete
  rw [hwrites]
  cases x.writes[id]? with
  | none => rfl
  | some change => cases change <;> rfl

/-! ## The calls -/

variable (h : x.store.faults.Alike faults)
include h

/-- Planting bears on faults alone, so what leaves the store as it is leaves it planted alike. -/
theorem alike_of_store_eq {y : Session E} (hstore : y.store = x.store) :
    y.Alike (y.refaulted faults) :=
  ⟨faults, hstore ▸ h, rfl⟩

theorem unlessFaulty_alike {change : Session E → Except Failure α × Session E}
    (hchange : AnswersAlike (change x) (change (x.refaulted faults))) (step : Failure.Step) :
    AnswersAlike (x.unlessFaulty step change) ((x.refaulted faults).unlessFaulty step change) := by
  have hplanted : Option.Rel AnyWords x.store.faults.mutation
      (x.refaulted faults).store.faults.mutation := h.mutation
  unfold unlessFaulty
  rcases planted_cases hplanted with ⟨hx, hy⟩ | ⟨_, _, hx, hy⟩ <;> rw [hx, hy]
  · exact hchange
  · exact ⟨.error trivial, { faults with mutation := none }, { h with mutation := .none }, rfl⟩

theorem begin_alike : AnswersAlike x.begin (x.refaulted faults).begin := by
  have hplanted : Option.Rel AnyWords x.store.faults.begin
      (x.refaulted faults).store.faults.begin := h.begin
  unfold begin
  rcases planted_cases hplanted with ⟨hx, hy⟩ | ⟨_, _, hx, hy⟩ <;> rw [hx, hy]
  · exact ⟨.ok rfl, faults, h, rfl⟩
  · exact ⟨.error trivial, { faults with begin := none }, { h with begin := .none }, rfl⟩

theorem findById_alike (id : Int) :
    AnswersAlike (x.findById id) ((x.refaulted faults).findById id) := by
  have hplanted : Option.Rel AnyWords x.store.faults.findById
      (x.refaulted faults).store.faults.findById := h.findById
  unfold findById
  rcases planted_cases hplanted with ⟨hx, hy⟩ | ⟨_, _, hx, hy⟩ <;> rw [hx, hy]
  · exact ⟨.ok rfl, faults, h, rfl⟩
  · exact ⟨.error trivial, { faults with findById := none }, { h with findById := .none }, rfl⟩

theorem contains_alike (id : Int) :
    AnswersAlike (x.contains id) ((x.refaulted faults).contains id) := by
  obtain ⟨hfound, hafter⟩ := findById_alike h id
  refine ⟨?_, hafter⟩
  change Outcome.Alike AnyWords Eq ((x.findById id).1.map _)
    (((x.refaulted faults).findById id).1.map _)
  generalize (x.findById id).1 = found at hfound ⊢
  generalize ((x.refaulted faults).findById id).1 = found' at hfound ⊢
  cases hfound with
  | ok hsame => exact .ok (congrArg Option.isSome hsame)
  | error _ => exact .error trivial

theorem commit_alike : AnswersAlike x.commit (x.refaulted faults).commit := by
  have hconflict : (x.refaulted faults).store.conflict? (x.refaulted faults).writes =
      x.store.conflict? x.writes := rfl
  have hplanted : Option.Rel AnyWords x.store.faults.commit
      (x.refaulted faults).store.faults.commit := h.commit
  unfold commit
  rcases planted_cases hplanted with ⟨hx, hy⟩ | ⟨_, _, hx, hy⟩ <;> rw [hx, hy]
  · rw [hconflict]
    cases x.store.conflict? x.writes with
    | some id => exact ⟨.error trivial, faults, h, rfl⟩
    | none =>
      refine ⟨.ok rfl, faults, (x.store.faults_applyAll x.writes).symm ▸ h, ?_⟩
      dsimp only [refaulted]
      rw [Store.applyAll_withFaults]
      rfl
  · exact ⟨.error trivial, { faults with commit := none }, { h with commit := .none }, rfl⟩

theorem delete_alike (id : Int) : AnswersAlike (x.delete id) ((x.refaulted faults).delete id) := by
  refine unlessFaulty_alike h ?_ .delete
  have hrefused : (x.refaulted faults).store.faults.refuseDelete = x.store.faults.refuseDelete :=
    h.refuseDelete.symm
  have hvisible : (x.refaulted faults).visible id = x.visible id := rfl
  dsimp only
  rw [hrefused, hvisible, stageDelete_refaulted]
  cases x.store.faults.refuseDelete with
  | true =>
    exact ⟨.ok rfl, { faults with refuseDelete := false }, { h with refuseDelete := rfl }, rfl⟩
  | false =>
    cases x.visible id with
    | true => exact ⟨.ok rfl, alike_of_store_eq h (store_stageDelete x id)⟩
    | false => exact ⟨.ok rfl, alike_of_store_eq h rfl⟩

theorem insertAt_alike (id : Int) (e : E) :
    AnswersAlike (x.insertAt id e) ((x.refaulted faults).insertAt id e) := by
  have hvisible : (x.refaulted faults).visible id = x.visible id := rfl
  unfold insertAt
  rw [hvisible, stageInsert_refaulted]
  cases x.visible id with
  | true => exact ⟨.error trivial, alike_of_store_eq h rfl⟩
  | false => exact ⟨.ok rfl, alike_of_store_eq h (store_stageInsert x id e)⟩

variable [Entity E]

theorem findAll_alike (query : Query) :
    AnswersAlike (x.findAll query) ((x.refaulted faults).findAll query) := by
  have hplanted : Option.Rel AnyWords x.store.faults.findAll
      (x.refaulted faults).store.faults.findAll := h.findAll
  unfold findAll
  rcases planted_cases hplanted with ⟨hx, hy⟩ | ⟨_, _, hx, hy⟩ <;> rw [hx, hy]
  · exact ⟨.ok rfl, faults, h, rfl⟩
  · exact ⟨.error trivial, { faults with findAll := none }, { h with findAll := .none }, rfl⟩

theorem insert_alike (e : E) : AnswersAlike (x.insert e) ((x.refaulted faults).insert e) := by
  refine unlessFaulty_alike h ?_ .insert
  have hdrawn : (x.refaulted faults).drawId = x.drawId.refaulted faults := rfl
  by_cases hid : 0 < Entity.id e
  · rw [if_pos hid, if_pos hid]
    exact insertAt_alike h _ e
  · rw [if_neg hid, if_neg hid, hdrawn]
    exact insertAt_alike (x := x.drawId) h _ _

theorem update_alike (e : E) : AnswersAlike (x.update e) ((x.refaulted faults).update e) := by
  refine unlessFaulty_alike h ?_ .update
  have hvisible : (x.refaulted faults).visible (Entity.id e) = x.visible (Entity.id e) := rfl
  rw [hvisible, stageUpdate_refaulted]
  cases x.visible (Entity.id e) with
  | true => exact ⟨.ok rfl, alike_of_store_eq h (store_stageUpdate x _ e)⟩
  | false => exact ⟨.error trivial, alike_of_store_eq h rfl⟩

omit h [Entity E] in
/-- Alike answers are alike replies. -/
theorem AnswersAlike.reply {p q : Except Failure α × Session E} (h : AnswersAlike p q) :
    (Reply.ofExcept p.1).Alike (.ofExcept q.1) ∧ p.2.Alike q.2 := by
  obtain ⟨hanswer, hafter⟩ := h
  refine ⟨?_, hafter⟩
  generalize p.1 = answer at hanswer ⊢
  generalize q.1 = answer' at hanswer ⊢
  cases hanswer with
  | ok hsame => exact hsame ▸ .returned _
  | error _ => exact .failed _ _

omit h in
/-- **Stores whose faults have other words answer alike.** -/
theorem answer_alike : Script.Answerer.Alike (E := E) Session.Alike Session.answer Session.answer := by
  rintro call x _ ⟨faults, h, rfl⟩
  cases call with
  | findAll query => exact (findAll_alike h query).reply
  | findById id => exact (findById_alike h id).reply
  | contains id => exact (contains_alike h id).reply
  | begin => exact (begin_alike h).reply
  | insert e => exact (insert_alike h e).reply
  | update e => exact (update_alike h e).reply
  | updatePartial e => exact (update_alike h e).reply
  | delete id => exact (delete_alike h id).reply
  | commit => exact (commit_alike h).reply
  | rollback => exact ⟨.returned (), faults, h, rfl⟩
  | release => exact ⟨.returned (), faults, h, rfl⟩

end Session

end ResourceApi
