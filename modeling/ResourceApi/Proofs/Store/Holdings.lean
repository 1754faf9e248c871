import ResourceApi.Proofs.Store.Changes
import ResourceApi.Proofs.Store.History
import ResourceApi.Proofs.Store.Index

/-!
# What stands under the identifiers

What may stand under an identifier is said by a predicate of the identifier and of the entity there,
if there is one. When it holds of all that is committed and of all that is staged, and every change
brings only what it holds of, then it goes on to hold through any calls of any transactions.

## Main definitions

- `Session.Holds`, `World.Holds` — a predicate holds of all that is committed and staged
- `Call.Brings` — a call brings only what a predicate holds of
- `Step.call?` — the call that a step makes, and in which transaction

## Main results

- `Session.Holds.answer`, `World.Holds.step` — one call
- `Session.answer_nextId_le`, `Session.answer_ahead` — the counter of identifiers behind one call
- `World.step_cases` — a step is a call or plants faults
-/

namespace ResourceApi

variable {τ E : Type} {P : Int → Option E → Prop}

/-- A predicate holds of what is committed under every identifier, and of what a commit would leave
under those that something is staged for. -/
structure Session.Holds (P : Int → Option E → Prop) (x : Session E) : Prop where
  committed : ∀ id, P id (x.store.get? id)
  staged : ∀ (id : Int) (change : Staged E), x.writes[id]? = some change → P id change.value?

/-- A call brings to the identifier it changes only what a predicate holds of. -/
def Call.Brings [Entity E] (P : Int → Option E → Prop) (s : Store E) : Call E → Prop
  | .insert e => P (s.placed e).1 (some (s.placed e).2)
  | .update e | .updatePartial e => P (Entity.id e) (some e)
  | .delete id => P id none
  | _ => True

namespace Session

variable {x y : Session E}

/-! ## One call -/

theorem Holds.of_eq (h : x.Holds P) (hentities : y.store.entities = x.store.entities)
    (hwrites : y.writes = x.writes) : y.Holds P where
  committed id := by
    rw [Store.get?, hentities]
    exact h.committed id
  staged id change hstaged := h.staged id change (hwrites ▸ hstaged)

theorem Holds.of_unstaged (h : ∀ id, P id (y.store.get? id)) (hwrites : y.writes = ∅) :
    y.Holds P where
  committed := h
  staged id change hstaged := by simp [hwrites] at hstaged

/-- Whatever is staged under one identifier in the place of what was staged there. -/
theorem Holds.of_staged (h : x.Holds P) (hentities : y.store.entities = x.store.entities)
    {id : Int} {now : Option (Staged E)}
    (hwrites : ∀ other : Int, y.writes[other]? = if other = id then now else x.writes[other]?)
    (hnow : ∀ change, now = some change → P id change.value?) : y.Holds P where
  committed other := by
    rw [Store.get?, hentities]
    exact h.committed other
  staged other change hstaged := by
    rw [hwrites] at hstaged
    split at hstaged
    · next heq => exact heq ▸ hnow change hstaged
    · exact h.staged other change hstaged

theorem Holds.overlay (h : x.Holds P) (id : Int) :
    P id (overlay x.store.get? x.writes id) := by
  cases hstaged : x.writes[id]? with
  | some change =>
    rw [overlay_of_staged hstaged]
    exact h.staged id change hstaged
  | none =>
    rw [overlay_of_unstaged hstaged]
    exact h.committed id

variable [Entity E]

theorem Holds.insert (h : x.Holds P) {e : E}
    (hb : P (x.store.placed e).1 (some (x.store.placed e).2)) : (x.insert e).2.Holds P := by
  have hentities := insert_keeps Store.steady_entities x e
  rcases x.insert_cases e with ⟨failure, -, hwrites⟩ | ⟨-, -, hwrites⟩
  · exact h.of_eq hentities hwrites
  · refine h.of_staged hentities hwrites fun change hchange => ?_
    rw [← Option.some.inj hchange, Staged.value?_inserted]
    exact hb

theorem Holds.update (h : x.Holds P) {e : E} (hb : P (Entity.id e) (some e)) :
    (x.update e).2.Holds P := by
  have hentities := update_keeps Store.steady_entities x e
  rcases x.update_cases e with ⟨failure, -, hwrites⟩ | ⟨-, -, hwrites⟩
  · exact h.of_eq hentities hwrites
  · refine h.of_staged hentities hwrites fun change hchange => ?_
    rw [← Option.some.inj hchange, Staged.value?_updated]
    exact hb

omit [Entity E] in
theorem Holds.delete (h : x.Holds P) {id : Int} (hb : P id none) : (x.delete id).2.Holds P := by
  have hentities := delete_keeps Store.steady_entities x id
  rcases x.delete_cases id with ⟨-, hwrites⟩ | ⟨-, -, hwrites⟩
  · exact h.of_eq hentities hwrites
  · refine h.of_staged hentities hwrites fun change hchange => ?_
    rw [Staged.value?_of_removed? hchange]
    exact hb

omit [Entity E] in
theorem Holds.commit (h : x.Holds P) : x.commit.2.Holds P := by
  rcases x.commit_cases with ⟨failure, y, hy, -, hentities, -, hwrites⟩ | ⟨-, -, hy⟩
  · rw [hy]
    exact h.of_eq hentities hwrites
  · rw [hy]
    refine .of_unstaged (fun id => ?_) rfl
    have hget := Store.get?_applyAll x.store x.writes id
    exact hget ▸ h.overlay id

omit [Entity E] in
theorem Holds.begin (h : x.Holds P) : x.begin.2.Holds P := by
  unfold Session.begin
  split
  · exact h.of_eq rfl rfl
  · exact .of_unstaged h.committed rfl

omit [Entity E] in
theorem Holds.findById (h : x.Holds P) (id : Int) : (x.findById id).2.Holds P := by
  unfold Session.findById
  split
  · exact h.of_eq rfl rfl
  · exact h

theorem Holds.findAll (h : x.Holds P) (q : Query) : (x.findAll q).2.Holds P := by
  unfold Session.findAll
  split
  · exact h.of_eq rfl rfl
  · exact h

/-- **One call** leaves only what the predicate holds of, if it brings nothing else. -/
theorem Holds.answer (h : x.Holds P) {call : Call E} (hb : call.Brings P x.store) :
    (Session.answer call x).2.Holds P := by
  cases call with
  | findAll q => exact h.findAll q
  | findById id => exact h.findById id
  | contains id => exact h.findById id
  | begin => exact h.begin
  | insert e => exact h.insert hb
  | update e => exact h.update hb
  | updatePartial e => exact h.update hb
  | delete id => exact h.delete hb
  | commit => exact h.commit
  | rollback => exact .of_unstaged h.committed rfl
  | release => exact h.of_eq rfl rfl

/-! ## The counter of identifiers -/

/-- No call but a commit touches the committed entities. -/
theorem answer_entities {call : Call E} (h : call ≠ .commit) (x : Session E) :
    (Session.answer call x).2.store.entities = x.store.entities := by
  cases call with
  | findAll q => exact findAll_keeps Store.steady_entities x q
  | findById id => exact findById_keeps Store.steady_entities x id
  | contains id => exact contains_keeps Store.steady_entities x id
  | begin => exact x.begin_entities
  | insert e => exact insert_keeps Store.steady_entities x e
  | update e => exact update_keeps Store.steady_entities x e
  | updatePartial e => exact update_keeps Store.steady_entities x e
  | delete id => exact delete_keeps Store.steady_entities x id
  | commit => exact absurd rfl h
  | rollback => rfl
  | release => rfl

omit [Entity E] in
theorem commit_nextId_le (x : Session E) : x.store.nextId ≤ x.commit.2.store.nextId := by
  rcases x.commit_cases with ⟨failure, y, hy, -⟩ | ⟨-, -, hy⟩
  · rw [hy]
    exact Int.le_of_eq (nextId_of_commit_error hy).symm
  · rw [hy]
    exact x.store.nextId_le_applyList x.writes.toList

omit [Entity E] in
theorem commit_ahead {x : Session E} (h : x.store.Ahead) : x.commit.2.store.Ahead := by
  rcases x.commit_cases with ⟨failure, y, hy, -, hentities, -⟩ | ⟨-, -, hy⟩
  · rw [hy]
    exact h.of_le hentities (Int.le_of_eq (nextId_of_commit_error hy).symm)
  · rw [hy]
    exact (h.applyList x.writes.toList).of_le rfl (Int.le_refl _)

omit [Entity E] in
theorem findById_nextId (x : Session E) (id : Int) :
    (x.findById id).2.store.nextId = x.store.nextId := by
  unfold Session.findById
  split <;> rfl

omit [Entity E] in
theorem begin_nextId (x : Session E) : x.begin.2.store.nextId = x.store.nextId := by
  unfold Session.begin
  split <;> rfl

theorem findAll_nextId (x : Session E) (q : Query) :
    (x.findAll q).2.store.nextId = x.store.nextId := by
  unfold Session.findAll
  split <;> rfl

/-- Only an insert and a commit move the counter. -/
theorem answer_nextId {call : Call E} (hinsert : ∀ e, call ≠ .insert e) (hcommit : call ≠ .commit)
    (x : Session E) : (Session.answer call x).2.store.nextId = x.store.nextId := by
  cases call with
  | findAll q => exact x.findAll_nextId q
  | findById id => exact x.findById_nextId id
  | contains id => exact x.findById_nextId id
  | begin => exact x.begin_nextId
  | insert e => exact absurd rfl (hinsert e)
  | update e => exact x.update_nextId e
  | updatePartial e => exact x.update_nextId e
  | delete id => exact x.delete_nextId id
  | commit => exact absurd rfl hcommit
  | rollback => rfl
  | release => rfl

/-- The counter is never turned back. -/
theorem answer_nextId_le (call : Call E) (x : Session E) :
    x.store.nextId ≤ (Session.answer call x).2.store.nextId := by
  cases call with
  | insert e => exact x.insert_nextId_le e
  | commit => exact x.commit_nextId_le
  | _ => exact Int.le_of_eq (answer_nextId (by nofun) (by nofun) x).symm

/-- Only a commit brings entities under new identifiers, and it moves the counter behind them. -/
theorem answer_ahead (call : Call E) {x : Session E} (h : x.store.Ahead) :
    (Session.answer call x).2.store.Ahead := by
  by_cases hcommit : call = .commit
  · subst hcommit
    exact commit_ahead h
  · exact h.of_le (answer_entities hcommit x) (answer_nextId_le call x)

end Session

/-! ## Steps as calls -/

/-- The call that a step makes, with the handle of its transaction if it belongs to one. -/
def Step.call? : Step τ E → Option (Option τ × Call E)
  | .begin tx => some (some tx, .begin)
  | .commit tx => some (some tx, .commit)
  | .rollback tx => some (some tx, .rollback)
  | .release tx => some (some tx, .release)
  | .insert tx e => some (some tx, .insert e)
  | .update tx e => some (some tx, .update e)
  | .updatePartial tx e => some (some tx, .updatePartial e)
  | .delete tx id => some (some tx, .delete id)
  | .find id => some (none, .findById id)
  | .contains id => some (none, .contains id)
  | .list q => some (none, .findAll q)
  | .plant _ => none

namespace World

/-- The session behind a handle. Outside of transactions nothing is staged. -/
def sessionOf (w : World τ E) : Option τ → Session E
  | some tx => w.session tx
  | none => ⟨w.store, ∅⟩

/-- The world after a session has gone on, of a transaction or outside of them. -/
def resumeOf [DecidableEq τ] (w : World τ E) : Option τ → Session E → World τ E
  | some tx, x => w.resume tx x
  | none, x => ⟨x.store, w.writes⟩

@[simp] theorem store_sessionOf (w : World τ E) (tx : Option τ) :
    (w.sessionOf tx).store = w.store := by
  cases tx <;> rfl

variable [DecidableEq τ]

@[simp] theorem store_resumeOf (w : World τ E) (tx : Option τ) (x : Session E) :
    (w.resumeOf tx x).store = x.store := by
  cases tx <;> rfl

/-- A step answers a call of a session, or it plants faults. -/
theorem step_cases [Entity E] (w : World τ E) (s : Step τ E) :
    (∃ tx call, s.call? = some (tx, call) ∧
        (w.step s).2 = w.resumeOf tx (Session.answer call (w.sessionOf tx)).2) ∨
      (∃ change, s = .plant change) := by
  cases s with
  | plant change => exact .inr ⟨change, rfl⟩
  | _ => exact .inl ⟨_, _, rfl, rfl⟩

/-- A predicate holds of all that is committed, and of all that any transaction has staged. -/
structure Holds (P : Int → Option E → Prop) (w : World τ E) : Prop where
  committed : ∀ id, P id (w.store.get? id)
  staged : ∀ (tx : τ) (id : Int) (change : Staged E),
    (w.writes tx)[id]? = some change → P id change.value?

variable {w : World τ E}

omit [DecidableEq τ] in
theorem Holds.sessionOf (h : w.Holds P) (tx : Option τ) : (w.sessionOf tx).Holds P := by
  cases tx with
  | some tx => exact ⟨h.committed, h.staged tx⟩
  | none => exact .of_unstaged h.committed rfl

theorem Holds.resumeOf (h : w.Holds P) (tx : Option τ) {x : Session E} (hx : x.Holds P) :
    (w.resumeOf tx x).Holds P := by
  cases tx with
  | none => exact ⟨hx.committed, h.staged⟩
  | some tx =>
    refine ⟨hx.committed, fun other id change hstaged => ?_⟩
    by_cases ho : other = tx
    · subst ho
      rw [World.resumeOf, resume_writes_self] at hstaged
      exact hx.staged id change hstaged
    · rw [World.resumeOf, resume_writes_of_ne w ho] at hstaged
      exact h.staged other id change hstaged

variable [Entity E]

/-- **One step** leaves only what the predicate holds of, if it brings nothing else. -/
theorem Holds.step (h : w.Holds P) {s : Step τ E}
    (hb : ∀ tx call, s.call? = some (tx, call) → call.Brings P w.store) :
    (w.step s).2.Holds P := by
  rcases w.step_cases s with ⟨tx, call, hcall, hstep⟩ | ⟨change, rfl⟩
  · rw [hstep]
    refine h.resumeOf tx ((h.sessionOf tx).answer ?_)
    rw [store_sessionOf]
    exact hb tx call hcall
  · exact ⟨h.committed, h.staged⟩

/-- By induction on the run, each step of which brings only what the predicate holds of. -/
theorem Holds.run (h : w.Holds P)
    (hb : ∀ (call : Call E) (s : Store E), call.Brings P s) (steps : List (Step τ E)) :
    (w.run steps).2.Holds P := by
  induction steps generalizing w with
  | nil => exact h
  | cons s steps ih => exact ih (h.step fun tx call _ => hb call w.store)

/-! ## The counter of identifiers in a run -/

theorem step_nextId_le (w : World τ E) (s : Step τ E) :
    w.store.nextId ≤ (w.step s).2.store.nextId := by
  rcases w.step_cases s with ⟨tx, call, -, hstep⟩ | ⟨change, rfl⟩
  · rw [hstep, store_resumeOf]
    exact w.store_sessionOf tx ▸ Session.answer_nextId_le call (w.sessionOf tx)
  · exact Int.le_refl _

theorem run_nextId_le (w : World τ E) (steps : List (Step τ E)) :
    w.store.nextId ≤ (w.run steps).2.store.nextId := by
  induction steps generalizing w with
  | nil => exact Int.le_refl _
  | cons s steps ih => exact Int.le_trans (w.step_nextId_le s) (ih _)

theorem step_ahead (h : w.store.Ahead) (s : Step τ E) : (w.step s).2.store.Ahead := by
  rcases w.step_cases s with ⟨tx, call, -, hstep⟩ | ⟨change, rfl⟩
  · rw [hstep, store_resumeOf]
    exact Session.answer_ahead call (by rwa [store_sessionOf])
  · exact h.of_le rfl (Int.le_refl _)

theorem run_ahead (h : w.store.Ahead) (steps : List (Step τ E)) :
    (w.run steps).2.store.Ahead := by
  induction steps generalizing w with
  | nil => exact h
  | cons s steps ih => exact ih (step_ahead h s)

end World

end ResourceApi
