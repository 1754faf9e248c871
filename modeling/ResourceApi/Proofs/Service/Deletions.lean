import ResourceApi.Proofs.Service.Finalization
import ResourceApi.Proofs.Service.Rivals

/-!
# Deletions that race

An entity is removed while another request is to change or remove it. Existence is looked up before
the transaction is opened, so a request that has found the entity may be too late for it; and nobody
is told so, unless it shows at the change or at the commit.

## Main definitions

- `Race.ofRequests` — the race of two requests
- `Race.rivals` — a removal and another request

## Main results

- `Race.deletion_settles` — what the two requests come to, in whatever order their calls come
-/

namespace ResourceApi

variable {E D : Type}

namespace Race

/-! ## The race of two requests -/

/-- Two requests next to each other on one store. -/
def ofRequests (s : Service E D) (store : Store E) (requests : Bool → Request) :
    Race Bool E (Except Problem Grant) where
  world := .ofStore store
  scripts who := s.handle (requests who)
  calls := []

/-- A removal and another request. -/
def rivals (id : Int) (other : Request) (who : Bool) : Request := if who then other else .delete id

section Rivals

variable [Entity E] {s : Service E D} {store : Store E} {id : Int} {b : E}

theorem accounts_ofRequests {requests : Bool → Request}
    {unhindered : Bool → Except String (Except Problem Grant)}
    (hquiet : store.faults = Faults.none) (hb : store.get? id = some b)
    (herrand : ∀ who, s.Errand (requests who) id b (unhindered who) (s.handle (requests who))) :
    Accounts s store requests id b unhindered (ofRequests s store requests) fun _ => 0 where
  quiet := hquiet
  others := fun _ _ => rfl
  gone := by
    refine iff_of_false ?_ (by rintro ⟨w, -, hcommit⟩; cases hcommit)
    have hsome : (ofRequests s store requests).world.store.get? id = some b := hb
    rw [hsome]
    nofun
  kept := by
    intro e he
    have hsome : some b = some e := hb.symm.trans he
    exact .inl (Option.some.inj hsome).symm
  standing := fun who => .fresh (herrand who) fun _ => List.not_mem_nil

/-- A request that has all turns to itself comes to what it comes to if nothing gets in its way. -/
theorem perform_eq_unhindered {requests : Bool → Request}
    {unhindered : Bool → Except String (Except Problem Grant)}
    (h : Accounts s store requests id b unhindered (ofRequests s store requests) fun _ => 0)
    (htarget : ∀ who, (requests who).target? = some id)
    (hone : ∀ who, (requests who).deletes = false → (requests !who).deletes = true) (who : Bool) :
    (store.perform (s.handle (requests who))).outcome = unhindered who := by
  let calls := (store.perform (s.handle (requests who))).calls
  have hlength : calls.length ≤ max calls.length 6 := Nat.le_max_left ..
  obtain ⟨houtcome, -, hcalls⟩ := (ofRequests s store requests).run_alone who hlength
  have hstanding := (h.run htarget hone (List.replicate (max calls.length 6) who)).standing who
  have hsettles := hstanding.settles houtcome
  by_cases heq : (store.perform (s.handle (requests who))).outcome = unhindered who
  · exact heq
  · -- Nobody else has called anything.
    have hcommitted := (hsettles.committed_of_ne heq).2
    rw [hcalls] at hcommitted
    rcases List.mem_append.mp hcommitted with hnone | hcommitted
    · cases hnone
    · obtain ⟨call, -, hcall⟩ := List.mem_map.mp hcommitted
      exact absurd (Prod.mk.inj hcall).1.symm (by simp)

/-- A removal without another request is granted, if it is allowed. -/
theorem perform_delete (s : Service E D) (hquiet : store.faults = Faults.none)
    (hb : store.get? id = some b) (hid : 0 < id) (hallowed : s.resource.deletionAllowed = true)
    (hdeletable : s.resource.deletable id = true) :
    (store.perform (s.handle (.delete id))).outcome = .ok (.ok .noContent) := by
  let x : Session E := ⟨store, ∅⟩
  have hidentifier : Service.identifierVerdict .delete id = .ok () := by
    rw [Service.identifierVerdict, if_neg (Int.not_le.mpr hid)]
  have hpolicy : s.policyVerdict id = .ok () := by
    rw [Service.policyVerdict, if_pos hallowed, if_pos hdeletable]
  have hexistence : s.existenceVerdict Session.answer .delete id x = .ok () := by
    unfold Service.existenceVerdict Script.Answerer.known
    rw [Session.answer_contains_of_quiet hquiet, hb]
    rfl
  have hlooked : (Session.answer (.contains id) x).2 = x := by
    rw [Session.answer_contains_of_quiet hquiet]
  -- The transaction stages the removal of an identifier that is taken.
  let opened := store.withTally { store.tally with begun := store.tally.begun + 1 }
  have hbegin : Session.answer .begin x = (.returned (), ⟨opened, ∅⟩) := by
    rw [Session.answer_begin_of_faultless (congrArg Faults.begin hquiet),
      Session.begin_of_quiet hquiet]
  have hcontains : opened.entities.contains id = true := by
    rw [Store.contains_entities]
    exact Option.isSome_of_eq_some hb
  have hact : (Work.delete Session.answer id).act (Session.answer .begin x).2 =
      (.returned (), ⟨opened, (∅ : WriteSet E).insert id .delete⟩) := by
    have hdelete := Session.delete_of_quiet (x := ⟨opened, ∅⟩) hquiet rfl hcontains
    rw [hbegin]
    simp only [Work.delete, Script.Answerer.delete, Session.answer, hdelete]
    rfl
  have hverdict := (s.transact_single (x := x) hquiet hact hquiet rfl .delete (some id)).1
  have hcourse := s.course_delete Session.answer_calm id x
  rw [hidentifier, Course.ofVerdict_proceed_ok, hpolicy, Course.ofVerdict_proceed_ok, hexistence,
    Course.ofVerdict_proceed_ok, hlooked, Service.transactCourse, hverdict,
    Course.ofVerdict_proceed_ok] at hcourse
  exact congrArg Course.outcome hcourse

/-- **What two requests come to if one of them removes an entity**, in whatever order their calls
come:

* neither makes more than six calls;
* a request is told that the entity is missing exactly if the other one has removed it before the
  look-up;
* it is told that something inside the service failed if that happens between the look-up and the
  change or, unless it removes the entity too, between the change and the commit, and only if it
  happens between the look-up and the commit;
* if it does not happen before the commit, the request is told what it is told without the other one,
  which is for a removal that is allowed that it is done; and of two removals at least one is told
  that;
* the entity is gone as soon as a removal is committed, and no other one is touched. -/
theorem deletion_settles (s : Service E D) {store : Store E} {id : Int} {b : E} {other : Request}
    (hquiet : store.faults = Faults.none) (hb : store.get? id = some b)
    (hkeeps : s.KeepsIdentifier id b) (hother : other.target? = some id) (schedule : List Bool) :
    let requests := rivals id other
    let r := (ofRequests s store requests).run schedule
    let alone := fun who => (store.perform (s.handle (requests who))).outcome
    (∀ who, 6 ≤ schedule.count who → ∃ outcome, r.outcome? who = some outcome) ∧
      (∀ who outcome, r.outcome? who = some outcome →
        (Refused .notFound outcome ↔ Overtaken requests r.calls who Call.isLookup) ∧
        (Overtaken requests r.calls who Call.isChange ∨
            (requests who).deletes = false ∧ Overtaken requests r.calls who Call.isCommit →
          Refused .internalError outcome) ∧
        (Refused .internalError outcome →
          Overtaken requests r.calls who Call.isChange ∨
            Overtaken requests r.calls who Call.isCommit) ∧
        (¬ Overtaken requests r.calls who Call.isLookup →
          ¬ Overtaken requests r.calls who Call.isChange →
          ¬ Overtaken requests r.calls who Call.isCommit → outcome = alone who)) ∧
      (0 < id → s.resource.deletionAllowed = true → s.resource.deletable id = true →
        alone false = .ok (.ok .noContent)) ∧
      (other.deletes = true →
        ∀ outcomes : Bool → _, (∀ who, r.outcome? who = some (outcomes who)) →
          ∃ who, outcomes who = alone who) ∧
      (r.world.store.get? id = none ↔
        ∃ who, (requests who).deletes = true ∧ (who, .commit) ∈ r.calls) ∧
      ∀ another, another ≠ id → r.world.store.get? another = store.get? another := by
  intro requests r alone
  have htarget : ∀ who, (requests who).target? = some id
    | true => hother
    | false => rfl
  have hone : ∀ who, (requests who).deletes = false → (requests !who).deletes = true
    | true => fun _ => rfl
    | false => nofun
  obtain ⟨unhindered, hunhindered⟩ :=
    Classical.axiomOfChoice fun who => s.errand (htarget who) hkeeps
  have hbegin := accounts_ofRequests hquiet hb fun who => (hunhindered who).2
  have halone (who : Bool) : alone who = unhindered who :=
    perform_eq_unhindered hbegin htarget hone who
  have haccounts := hbegin.run htarget hone schedule
  have hsettles {who : Bool} {outcome : Except String (Except Problem Grant)}
      (houtcome : r.outcome? who = some outcome) :=
    (haccounts.standing who).settles houtcome
  refine ⟨fun who hcount => ?_, fun who outcome houtcome => ?_, perform_delete s hquiet hb, ?_,
    haccounts.gone, haccounts.others⟩
  · exact (haccounts.standing who).over_of_turns (by omega)
  · have hmissing := (hsettles houtcome).missing_iff (hunhindered who).1
    have hfailing := (hsettles houtcome).failing_iff (hunhindered who).1
    refine ⟨hmissing, hfailing.mpr, fun hrefused => (hfailing.mp hrefused).imp_right And.right, ?_⟩
    intro hlookups hchanges hcommits
    rw [halone who]
    refine (hsettles houtcome).eq_unhindered (mt hmissing.mp hlookups) fun hrefused => ?_
    rcases hfailing.mp hrefused with hchange | ⟨-, hcommit⟩
    · exact hchanges hchange
    · exact hcommits hcommit
  · intro hremoves outcomes hover
    by_cases hfirst : outcomes false = unhindered false
    · exact ⟨false, hfirst.trans (halone false).symm⟩
    · -- The removal that is not granted comes behind the commit of the other one.
      have hcommit := ((hsettles (hover false)).committed_of_ne hfirst).2
      exact ⟨true, ((hsettles (hover true)).eq_of_commit hremoves hcommit).trans (halone true).symm⟩

end Rivals

/-! ## Two removals of one item -/

def pens : Store Item := .ofList [⟨1, "pen", 5, none⟩]

theorem stock_keepsIdentifier : Service.stock.KeepsIdentifier 1 ⟨1, "pen", 5, none⟩ := by
  have hreserved {d : Item.Draft} {x e : Item} (h : Item.unlessReserved d x = .ok e) : x = e := by
    unfold Item.unlessReserved at h
    split at h
    · cases h
    · exact Except.ok.inj h
  refine ⟨fun d e hmade => ?_, fun d e hclaimed hmade => ?_⟩
  · rw [← hreserved hmade]
    rfl
  · rw [← hreserved hmade]
    -- What the draft says of its identifier is that of the path.
    change d.id.getD 1 = 1
    cases hid : d.id with
    | none => rfl
    | some claimed => exact hclaimed claimed hid

/-- Both removals find the item. Then one of them is done, and the other one comes too late for its
change. -/
theorem deletion_settles_too_late :
    let r := (ofRequests Service.stock pens (rivals 1 (.delete 1))).run
      [false, true, false, false, false, false, false, true, true, true, true, true]
    r.outcome? false = some (.ok (.ok .noContent)) ∧
      (∃ outcome, r.outcome? true = some outcome ∧ Refused .internalError outcome) ∧
      r.world.store.get? 1 = none := by
  intro r
  have hb : pens.get? 1 = some ⟨1, "pen", 5, none⟩ := rfl
  have hother : (Request.delete 1).target? = some 1 := rfl
  have hcalls : r.calls = [(false, .contains 1), (true, .contains 1), (false, .begin),
      (false, .delete 1), (false, .commit), (false, .release), (true, .begin), (true, .delete 1),
      (true, .rollback), (true, .release)] := rfl
  obtain ⟨hover, hends, hgranted, -, hgone, -⟩ := deletion_settles Service.stock rfl hb
    stock_keepsIdentifier hother
    [false, true, false, false, false, false, false, true, true, true, true, true]
  refine ⟨?_, ?_, hgone.mpr ⟨false, rfl, List.mem_of_getElem? (i := 4) rfl⟩⟩
  · -- Nothing is committed before the calls of this one.
    have hfirst (kind : Call Item → Bool) :
        ¬ Overtaken (rivals 1 (.delete 1)) r.calls false kind := by
      rintro ⟨-, call, -, hsub⟩
      have hcommit : (true, Call.commit) ∈ r.calls := hsub.subset List.mem_cons_self
      rw [hcalls] at hcommit
      simp at hcommit
    obtain ⟨outcome, houtcome⟩ := hover false (by decide)
    rw [houtcome, (hends false outcome houtcome).2.2.2 (hfirst _) (hfirst _) (hfirst _)]
    exact congrArg some (hgranted (by decide) rfl rfl)
  · obtain ⟨outcome, houtcome⟩ := hover true (by decide)
    refine ⟨outcome, houtcome, (hends true outcome houtcome).2.1 (.inl ⟨rfl, .delete 1, rfl, ?_⟩)⟩
    -- The first removal is committed by the fifth call and the second one made by the eighth.
    rw [hcalls]
    exact .cons _ (.cons _ (.cons _ (.cons _ (.cons_cons _ (.cons _ (.cons _ (.cons_cons _
      (List.nil_sublist _))))))))

/-- Two removals are both granted if each of them is staged before the other one is committed, and
one of them fails inside the service if it has found the item and stages its removal too late. -/
theorem deletions_granted_and_failed :
    let r := fun schedule => (ofRequests Service.stock pens (rivals 1 (.delete 1))).run schedule
    (∀ who, (r [false, true, false, true, false, true, false, true, false, true]).outcome? who =
        some (.ok (.ok .noContent))) ∧
      ∃ problem : Problem, problem.kind = .internalError ∧
        (r [false, true, false, false, false, false, true, true, true, true]).outcome? true =
          some (.ok (.error problem)) := by
  intro r
  refine ⟨fun who => ?_, Service.stock.internal .delete (some 1)
    (Failure.of .delete .other Service.nothingRemoved).text, Service.internal_kind .., rfl⟩
  cases who <;> rfl

end Race

end ResourceApi
