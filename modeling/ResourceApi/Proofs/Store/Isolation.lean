import ResourceApi.Proofs.Store.Batches
import ResourceApi.Proofs.Store.History

/-!
# A transaction that nobody disturbs

While no fault is planted and nobody commits, a transaction works as if it had a map of its own: a
ledger that begins with the committed entities and on which every change of the transaction takes
place at once. Its commit makes the committed entities those of the ledger, and its rollback leaves
them as they were. Other transactions may stage what they like. All that a transaction sees of them
is that they draw identifiers from the counter they share.

## Main definitions

- `Step.change?`, `Step.draws` — what a step changes, and whether it draws an identifier
- `Step.Undisturbing` — the steps that leave the ground of a transaction alone
- `Ledger.follow` — the ledger of a transaction behind several steps
- `World.Keeps` — a world in which a transaction shows what its ledger holds

## Main results

- `Session.store_act` — what a change does to a quiet store
- `World.Keeps.step` — one step
- `World.transaction_refines_ledger` — a whole transaction
-/

namespace ResourceApi

variable {τ E : Type}

/-! ## Steps seen from one transaction -/

namespace Step

/-- The change that a step makes in a transaction, if it makes one. -/
def change? [DecidableEq τ] (tx : τ) : Step τ E → Option (Change E)
  | .insert other e => if other = tx then some (.insert e) else none
  | .update other e => if other = tx then some (.update e) else none
  | .updatePartial other e => if other = tx then some (.updatePartial e) else none
  | .delete other id => if other = tx then some (.delete id) else none
  | _ => none

/-- Whether a step draws an identifier, in whatever transaction. -/
def draws [Entity E] : Step τ E → Bool
  | .insert _ e => !decide (0 < Entity.id e)
  | _ => false

/-- A step that leaves the ground of a transaction alone: nobody commits, no fault is planted, and
the transaction itself is neither opened again nor rolled back. -/
def Undisturbing (tx : τ) : Step τ E → Prop
  | .commit _ | .plant _ => False
  | .begin other | .rollback other => other ≠ tx
  | _ => True

theorem undisturbing_of_change [DecidableEq τ] {tx : τ} {s : Step τ E} {c : Change E}
    (h : s.change? tx = some c) : s.Undisturbing tx := by
  cases s <;> first | exact trivial | cases h

end Step

/-- The answer to a change, as the reply to it. -/
def Answer.reply? : Answer E → Option (Reply (Change.Effect E))
  | .stored e => some (.returned (.stored e))
  | .removed yes => some (.returned (.removed yes))
  | .failed failure => some (.failed failure)
  | _ => none

theorem Answer.reply?_stored (result : Except Failure E) :
    (Answer.ofResult .stored result).reply? = some ((Reply.ofExcept result).map .stored) := by
  cases result <;> rfl

theorem Answer.reply?_removed (result : Except Failure Bool) :
    (Answer.ofResult .removed result : Answer E).reply? =
      some ((Reply.ofExcept result).map .removed) := by
  cases result <;> rfl

/-- A change has come to nothing: it has failed, or it has removed nothing. -/
def Reply.Void : Reply (Change.Effect E) → Prop
  | .failed _ | .returned (.removed false) => True
  | _ => False

namespace Ledger

variable [DecidableEq τ] [Entity E]

/-- The ledger of a transaction behind a step: the transaction's own changes take place at once, and
of other steps it shows the identifiers they draw. -/
def behind (tx : τ) (l : Ledger E) (s : Step τ E) : Ledger E :=
  match s.change? tx with
  | some c => (change c l).2
  | none => if s.draws then { l with nextId := l.nextId + 1 } else l

/-- The ledger of a transaction behind several steps. -/
def follow (tx : τ) (l : Ledger E) (steps : List (Step τ E)) : Ledger E :=
  steps.foldl (behind tx) l

omit [DecidableEq τ] [Entity E] in
theorem entity?_add_of_void {l : Ledger E} {id : Int} {e : E} (h : (l.add id e).1.Void) :
    (l.add id e).2 = l := by
  unfold add at h ⊢
  split
  · rfl
  · next hfree =>
    rw [if_neg hfree] at h
    cases h

omit [DecidableEq τ] in
/-- A change that comes to nothing leaves every entity of a ledger where it was. -/
theorem entity?_change_of_void {c : Change E} {l : Ledger E} (h : (change c l).1.Void) :
    (change c l).2.entity? = l.entity? := by
  cases c with
  | fail failure => rfl
  | crash message => rfl
  | insert e =>
    simp only [change, insert] at h ⊢
    split
    · next hid =>
      rw [if_pos hid] at h
      rw [entity?_add_of_void h]
    · next hid =>
      rw [if_neg hid] at h
      rw [entity?_add_of_void h]
  | update e | updatePartial e =>
    simp only [change, replace] at h ⊢
    split
    · next htaken =>
      rw [if_pos htaken] at h
      cases h
    · rfl
  | delete id =>
    simp only [change, remove] at h ⊢
    split
    · rfl
    · next hrefusing =>
      rw [if_neg hrefusing] at h
      funext other
      rw [entity?_put]
      split
      -- Nothing was there to be removed.
      · next ho =>
        cases hentity : l.entity? id with
        | none => rw [ho, hentity]
        | some e =>
          rw [hentity] at h
          cases h
      · rfl

end Ledger

/-! ## Changes of a quiet store -/

namespace Session

variable {x y : Session E} {s : Store E} {l : Ledger E}

section Quiet

variable (h : x.store.faults = Faults.none)
include h

theorem unlessFaulty_of_quiet {α : Type} (step : Failure.Step)
    (change : Session E → Except Failure α × Session E) :
    x.unlessFaulty step change = change x := by
  have hfault : x.store.faults.mutation = none := by rw [h]; rfl
  simp only [unlessFaulty, hfault]

theorem store_delete_of_quiet (id : Int) : (x.delete id).2.store = x.store := by
  have hrefuse : x.store.faults.refuseDelete = false := by rw [h]; rfl
  rw [delete, unlessFaulty_of_quiet h, hrefuse, if_neg Bool.false_ne_true]
  split
  · exact store_stageDelete x id
  · rfl

variable [Entity E]

theorem store_update_of_quiet (e : E) : (x.update e).2.store = x.store := by
  rw [update, unlessFaulty_of_quiet h]
  split
  · exact store_stageUpdate x _ e
  · rfl

/-- An insert draws an identifier for an entity that has none. -/
theorem store_insert_of_quiet (e : E) :
    (x.insert e).2.store = if 0 < Entity.id e then x.store else x.drawId.store := by
  rw [insert, unlessFaulty_of_quiet h]
  split
  · exact store_insertAt x _ e
  · exact store_insertAt x.drawId _ _

theorem store_act_of_quiet (c : Change E) :
    ∃ n, (c.act x).2.store = { x.store with nextId := n } := by
  cases c with
  | insert e =>
    refine ⟨(x.insert e).2.store.nextId, ?_⟩
    have hstore := store_insert_of_quiet h e
    simp only [Change.act]
    rw [hstore]
    split <;> rfl
  | update e => exact ⟨x.store.nextId, store_update_of_quiet h e⟩
  | updatePartial e => exact ⟨x.store.nextId, store_update_of_quiet h e⟩
  | delete id => exact ⟨x.store.nextId, store_delete_of_quiet h id⟩
  | fail failure => exact ⟨x.store.nextId, rfl⟩
  | crash message => exact ⟨x.store.nextId, rfl⟩

end Quiet

/-- A session goes on mirroring its ledger while all that moves in the store is the counter of
identifiers and the tally. -/
theorem Mirrors.of_moved (h : x.Mirrors s l) (hwrites : y.writes = x.writes) {n : Int}
    {tally : Tally} (hstore : y.store = { x.store with nextId := n, tally := tally }) :
    y.Mirrors y.store { l with nextId := n } where
  entities := rfl
  tally := rfl
  commitFault := rfl
  mutationFault := by rw [hstore]; exact h.mutationFault
  nextId := by rw [hstore]
  refusing := by rw [hstore]; exact h.refusing
  seen := by
    rw [← h.seen]
    funext id
    simp only [Session.seen, hwrites, hstore]
    rfl
  sound := by
    intro id change hstaged
    rw [hwrites] at hstaged
    rw [hstore]
    exact h.sound id change hstaged

end Session

/-! ## Steps of a world -/

namespace World

variable [DecidableEq τ] [Entity E] {w v : World τ E} {tx : τ} {s : Step τ E} {l : Ledger E}

/-- A step that changes something in a transaction is a change of its session. -/
theorem step_of_change {c : Change E} (h : s.change? tx = some c) :
    (v.step s).1.reply? = some (c.act (v.session tx)).1 ∧
      (v.step s).2 = v.resume tx (c.act (v.session tx)).2 := by
  cases s with
  | insert other e =>
    obtain ⟨rfl, rfl⟩ : other = tx ∧ .insert e = c := by simpa [Step.change?] using h
    exact ⟨Answer.reply?_stored _, rfl⟩
  | update other e =>
    obtain ⟨rfl, rfl⟩ : other = tx ∧ .update e = c := by simpa [Step.change?] using h
    exact ⟨Answer.reply?_stored _, rfl⟩
  | updatePartial other e =>
    obtain ⟨rfl, rfl⟩ : other = tx ∧ .updatePartial e = c := by simpa [Step.change?] using h
    exact ⟨Answer.reply?_stored _, rfl⟩
  | delete other id =>
    obtain ⟨rfl, rfl⟩ : other = tx ∧ .delete id = c := by simpa [Step.change?] using h
    exact ⟨Answer.reply?_removed _, rfl⟩
  | _ => cases h

/-- Any other step leaves what the transaction has staged, and of the store it moves the counter and
the tally only. -/
theorem step_of_bystander (hquiet : v.store.faults = Faults.none) (hs : s.Undisturbing tx)
    (h : s.change? tx = none) :
    (v.step s).2.writes tx = v.writes tx ∧
      ∃ tally, (v.step s).2.store =
        { v.store with
          nextId := if s.draws then v.store.nextId + 1 else v.store.nextId, tally := tally } := by
  have hfindById : v.store.faults.findById = none := by rw [hquiet]; rfl
  have hfindAll : v.store.faults.findAll = none := by rw [hquiet]; rfl
  have hbegin : v.store.faults.begin = none := by rw [hquiet]; rfl
  cases s with
  | commit other => cases hs
  | plant change => cases hs
  | begin other =>
    refine ⟨resume_writes_of_ne v (Ne.symm hs) _,
      { v.store.tally with begun := v.store.tally.begun + 1 }, ?_⟩
    simp only [step, within_eq, resume, Session.begin_of_faultless (x := v.session other) hbegin]
    rfl
  | rollback other => exact ⟨resume_writes_of_ne v (Ne.symm hs) _, _, rfl⟩
  | release other =>
    refine ⟨congrFun (resume_writes_of_eq rfl) tx, _, rfl⟩
  | insert other e =>
    have hne : tx ≠ other := fun he => by simp [Step.change?, he] at h
    refine ⟨resume_writes_of_ne v hne _, v.store.tally, ?_⟩
    have hstore := Session.store_insert_of_quiet (x := v.session other) hquiet e
    simp only [step, within_eq, resume, hstore, Step.draws]
    by_cases hid : 0 < Entity.id e
    · simp [hid, session]
    · simp [hid, session, Session.drawId]
  | update other e =>
    have hne : tx ≠ other := fun he => by simp [Step.change?, he] at h
    exact ⟨resume_writes_of_ne v hne _, v.store.tally,
      Session.store_update_of_quiet (x := v.session other) hquiet e⟩
  | updatePartial other e =>
    have hne : tx ≠ other := fun he => by simp [Step.change?, he] at h
    exact ⟨resume_writes_of_ne v hne _, v.store.tally,
      Session.store_update_of_quiet (x := v.session other) hquiet e⟩
  | delete other id =>
    have hne : tx ≠ other := fun he => by simp [Step.change?, he] at h
    exact ⟨resume_writes_of_ne v hne _, v.store.tally,
      Session.store_delete_of_quiet (x := v.session other) hquiet id⟩
  | find id =>
    refine ⟨rfl, v.store.tally, ?_⟩
    simp only [step, outside_eq, Session.findById, hfindById, Step.draws]
    rfl
  | contains id =>
    refine ⟨rfl, v.store.tally, ?_⟩
    simp only [step, outside_eq, Session.contains, Session.findById, hfindById, Step.draws]
    rfl
  | list q =>
    refine ⟨rfl, v.store.tally, ?_⟩
    simp only [step, outside_eq, Session.findAll, hfindAll, Step.draws]
    rfl

/-- A world in which a transaction that began with the store `s` shows what its ledger holds. -/
structure Keeps (s : Store E) (tx : τ) (v : World τ E) (l : Ledger E) : Prop where
  quiet : v.store.faults = Faults.none
  entities : v.store.entities = s.entities
  mirrors : (v.session tx).Mirrors v.store l

/-- **One step**: a change of the transaction is answered by the ledger, and behind any step the
transaction shows what its ledger holds. -/
theorem Keeps.step {base : Store E} (h : Keeps base tx v l) (hs : s.Undisturbing tx) :
    (∀ c, s.change? tx = some c → (v.step s).1.reply? = some (Ledger.change c l).1) ∧
      Keeps base tx (v.step s).2 (l.behind tx s) := by
  have hentities : (v.step s).2.store.entities = v.store.entities := by
    apply v.step_keeps_entities
    rintro other rfl
    exact hs
  cases hc : s.change? tx with
  | some c =>
    obtain ⟨hanswer, hworld⟩ := step_of_change (v := v) hc
    obtain ⟨hreply, hmirrors⟩ := h.mirrors.act c
    obtain ⟨n, hstore⟩ := Session.store_act_of_quiet (x := v.session tx) h.quiet c
    rw [hreply] at hanswer
    refine ⟨fun c' hc' => Option.some.inj hc' ▸ hanswer, ?_⟩
    have hl : l.behind tx s = (Ledger.change c l).2 := by simp only [Ledger.behind, hc]
    have hsession : (v.step s).2.session tx = (c.act (v.session tx)).2 := by
      rw [hworld, resume_session_self]
    rw [hl]
    refine ⟨?_, hentities.trans h.entities, ?_⟩
    · rw [hworld, resume, hstore]
      exact h.quiet
    · rw [hsession]
      -- The session moves nowhere: its store is the one it mirrors.
      have hstill : (c.act (v.session tx)).2.store =
          { (c.act (v.session tx)).2.store with
            nextId := (c.act (v.session tx)).2.store.nextId
            tally := (c.act (v.session tx)).2.store.tally } := rfl
      have hsame := hmirrors.of_moved (y := (c.act (v.session tx)).2) rfl hstill
      rw [hmirrors.nextId] at hsame
      rw [hworld]
      exact hsame
  | none =>
    refine ⟨fun c' hc' => absurd hc' (by simp), ?_⟩
    obtain ⟨hwrites, tally, hstore⟩ := step_of_bystander h.quiet hs hc
    have hl : l.behind tx s =
        { l with nextId := if s.draws then v.store.nextId + 1 else v.store.nextId } := by
      have hnext : v.store.nextId = l.nextId := h.mirrors.nextId
      simp only [Ledger.behind, hc, hnext]
      split <;> rfl
    rw [hl]
    refine ⟨?_, hentities.trans h.entities, ?_⟩
    · rw [hstore]
      exact h.quiet
    · exact h.mirrors.of_moved (y := (v.step s).2.session tx) hwrites hstore

/-- By induction on the steps, each of which keeps what the next one needs. -/
theorem Keeps.run {base : Store E} (h : Keeps base tx v l) {steps : List (Step τ E)}
    (hs : ∀ s ∈ steps, s.Undisturbing tx) :
    Keeps base tx (v.run steps).2 (l.follow tx steps) := by
  induction steps generalizing v l with
  | nil => exact h
  | cons s steps ih =>
    have hnext := (h.step (hs s (List.mem_cons_self ..))).2
    rw [run_cons, Ledger.follow, List.foldl_cons]
    exact ih hnext fun other ho => hs other (List.mem_cons_of_mem _ ho)

/-- A transaction begins with the committed entities. -/
theorem keeps_begin (hquiet : w.store.faults = Faults.none) (tx : τ) :
    Keeps w.store tx (w.step (.begin tx)).2 w.store.ledger := by
  have hbegin : w.store.faults.begin = none := by rw [hquiet]; rfl
  have hmutation : w.store.faults.mutation = none := by rw [hquiet]; rfl
  have hopened := Session.begin_of_faultless (x := w.session tx) hbegin
  have hmirrors := Batch.mirrors_begin (x := w.session tx) hbegin hmutation
  have hsession : (w.step (.begin tx)).2.session tx = (w.session tx).begin.2 := by
    rw [step, within_eq, resume_session_self]
  refine ⟨?_, w.step_keeps_entities (fun other hother => by cases hother), ?_⟩
  · rw [step, within_eq, resume, hopened]
    exact hquiet
  · rw [hsession]
    exact hmirrors

/-- **A transaction is a ledger**, over every sequence of its changes, if no fault is planted and
nobody else commits meanwhile:

* every change is answered as on the ledger, which begins with the committed entities, and a change
  that fails or removes nothing leaves the entities of the ledger alone;
* a commit succeeds, and makes the committed entities those of the ledger;
* a rollback succeeds, and until then nothing of the transaction is committed. -/
theorem transaction_refines_ledger (w : World τ E) (tx : τ)
    (hquiet : w.store.faults = Faults.none) {steps : List (Step τ E)}
    (hs : ∀ s ∈ steps, s.Undisturbing tx) :
    let v := ((w.step (.begin tx)).2.run steps).2
    let l := w.store.ledger.follow tx steps
    (∀ s c, s.change? tx = some c → (v.step s).1.reply? = some (Ledger.change c l).1 ∧
        ((Ledger.change c l).1.Void → (Ledger.change c l).2.entity? = l.entity?)) ∧
      ((v.step (.commit tx)).1 = .done ∧ (v.step (.commit tx)).2.store.get? = l.entity?) ∧
      ((v.step (.rollback tx)).1 = .done ∧
        (v.step (.rollback tx)).2.store.entities = w.store.entities) ∧
      v.store.entities = w.store.entities := by
  intro v l
  have h : Keeps w.store tx v l := (keeps_begin hquiet tx).run hs
  refine ⟨?_, ?_, ⟨rfl, h.entities⟩, h.entities⟩
  · intro s c hc
    exact ⟨(h.step (Step.undisturbing_of_change hc)).1 c hc, Ledger.entity?_change_of_void⟩
  · -- What is staged suits the committed entities, so nothing blocks the commit.
    have hfree : ¬ v.CommitBlocked tx := by
      rw [commitBlocked_iff]
      rintro (hfault | hcontra)
      · rw [h.quiet] at hfault
        cases hfault
      · exact h.mirrors.sound.not_contradicted hcontra
    rcases v.step_commit_cases tx with ⟨failure, -, hblocked, -⟩ | ⟨hdone, -, hget, -⟩
    · exact absurd hblocked hfree
    · exact ⟨hdone, hget.trans h.mirrors.seen⟩

/-- A transaction inserts twice without an identifier while another one does, and takes up again one
of the two identifiers it frees. -/
theorem transaction_refines_stocktaking :
    let w : World Nat Item := ofStore (.ofList [⟨1, "pen", 5, none⟩, ⟨2, "ink", 8, none⟩])
    let steps : List (Step Nat Item) := [.insert 0 ⟨0, "cap", 1, none⟩, .begin 1,
      .insert 1 ⟨0, "mug", 4, none⟩, .delete 0 1, .insert 0 ⟨1, "nib", 2, none⟩, .delete 0 2,
      .insert 0 ⟨0, "cup", 1, none⟩]
    let v := ((w.step (.begin 0)).2.run steps).2
    w.store.faults = Faults.none ∧ (∀ s ∈ steps, s.Undisturbing 0) ∧
      (v.step (.update 0 ⟨2, "ink", 9, none⟩)).1.reply? = some (.failed (.notFound "entity" "2")) ∧
      (v.step (.commit 0)).1 = .done ∧
      [1, 2, 3, 4, 5].map (v.step (.commit 0)).2.store.get? =
        [some ⟨1, "nib", 2, none⟩, none, some ⟨3, "cap", 1, none⟩, none,
          some ⟨5, "cup", 1, none⟩] := by
  intro w steps v
  have hsteps : ∀ s ∈ steps, s.Undisturbing 0 := by
    simp [steps, Step.Undisturbing]
  obtain ⟨hanswers, ⟨hdone, hget⟩, -, -⟩ := transaction_refines_ledger w 0 rfl hsteps
  have hanswer := (hanswers (.update 0 ⟨2, "ink", 9, none⟩) (.update ⟨2, "ink", 9, none⟩) rfl).1
  refine ⟨rfl, hsteps, hanswer.trans rfl, hdone, ?_⟩
  rw [hget]
  rfl

end World

end ResourceApi
