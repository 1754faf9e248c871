import Mathlib.Data.Nat.Find
import ResourceApi.Catalog.Item
import ResourceApi.Proofs.Store.Holdings

/-!
# Entities without an identifier

An entity without an identifier is inserted under the one that the counter stands at. The counter
is behind all that is committed, but not behind what a transaction has staged of entities that had
their identifiers already: if it stands at one of those, the insert fails, and so do the next ones
up to the first identifier that is free.

## Main definitions

- `Session.NamedBeyond`, `World.NamedBeyond` — what is staged from the counter on has been inserted
  under an identifier that was named
- `World.NamedIn` — the identifiers that are named in the transactions of a run
- `World.drawnOn` — the world with the counter moved on

## Main results

- `Session.NamedBeyond.answer`, `World.NamedBeyond.run` — calls keep to what is named
- `World.nextId_le_of_limit` — how far the counter goes
- `World.run_tries` — inserts that fail one after the other
- `World.unnamed_insert_settles` — how an insert of an entity without an identifier goes
-/

namespace ResourceApi

variable {τ E : Type} {Named : Int → Prop}

/-- Whatever is staged from the counter on is new there, and under an identifier that was named. -/
def Session.NamedBeyond (Named : Int → Prop) (x : Session E) : Prop :=
  ∀ (id : Int) (change : Staged E), x.store.nextId ≤ id → x.writes[id]? = some change →
    (∃ e, change = .insert e) ∧ Named id

/-- A call that inserts an entity under an identifier of its own has named that one. -/
def Call.Names [Entity E] (Named : Int → Prop) : Call E → Prop
  | .insert e => 0 < Entity.id e → Named (Entity.id e)
  | _ => True

theorem Call.Names.imp [Entity E] {Named' : Int → Prop} {call : Call E} (h : call.Names Named)
    (himp : ∀ id, Named id → Named' id) : call.Names Named' := by
  cases call with
  | insert e => exact fun he => himp _ (h he)
  | _ => trivial

namespace Session

variable {x y : Session E}

/-! ## What is staged from the counter on -/

namespace NamedBeyond

theorem of_le (h : x.NamedBeyond Named) (hle : x.store.nextId ≤ y.store.nextId)
    (hwrites : y.writes = x.writes) : y.NamedBeyond Named := by
  intro id change hid hstaged
  rw [hwrites] at hstaged
  exact h id change (Int.le_trans hle hid) hstaged

theorem of_unstaged (hwrites : y.writes = ∅) : y.NamedBeyond Named := by
  intro id change _ hstaged
  simp [hwrites] at hstaged

/-- Whatever is staged under one identifier in the place of what was staged there. -/
theorem of_staged (h : x.NamedBeyond Named) (hle : x.store.nextId ≤ y.store.nextId) {id : Int}
    {now : Option (Staged E)}
    (hwrites : ∀ other : Int, y.writes[other]? = if other = id then now else x.writes[other]?)
    (hnow : y.store.nextId ≤ id → ∀ change, now = some change →
      (∃ e, change = .insert e) ∧ Named id) : y.NamedBeyond Named := by
  intro other change hother hstaged
  rw [hwrites] at hstaged
  split at hstaged
  · next heq =>
    subst heq
    exact hnow hother change hstaged
  · exact h other change (Int.le_trans hle hother) hstaged

/-- From the counter on nothing is committed, so what is taken there is taken by an insert. -/
theorem staged_of_visible (h : x.NamedBeyond Named) (hahead : x.store.Ahead) {id : Int}
    (hid : x.store.nextId ≤ id) (hvisible : x.visible id = true) :
    (∃ e, x.writes[id]? = some (.insert e)) ∧ Named id := by
  cases hstaged : x.writes[id]? with
  | some change =>
    obtain ⟨⟨e, rfl⟩, hnamed⟩ := h id change hid hstaged
    exact ⟨⟨e, rfl⟩, hnamed⟩
  | none =>
    rw [visible, hstaged] at hvisible
    have hlt := hahead.behind id (x.store.contains_entities id ▸ hvisible)
    omega

/-- From the counter on nothing is removed, so what is free there is not staged. -/
theorem unstaged_of_not_visible (h : x.NamedBeyond Named) {id : Int}
    (hid : x.store.nextId ≤ id) (hvisible : x.visible id = false) : x.writes[id]? = none := by
  rcases staged_of_not_visible hvisible with ⟨hnone, -⟩ | hdelete
  · exact hnone
  · obtain ⟨⟨e, he⟩, -⟩ := h id _ hid hdelete
    cases he

end NamedBeyond

variable [Entity E]

/-! ## Inserts of entities without an identifier -/

section Unnamed

variable {e : E} (hfault : x.store.faults.mutation = none) (he : ¬ 0 < Entity.id e)
include hfault he

theorem insert_of_unnamed :
    x.insert e = x.drawId.insertAt x.store.nextId (Entity.withId e x.store.nextId) := by
  simp only [insert, unlessFaulty, hfault, if_neg he]

theorem insert_of_taken (htaken : x.visible x.store.nextId = true) :
    x.insert e =
      (.error (.alreadyExists "entity" (Number.decimal x.store.nextId)), x.drawId) := by
  have hvisible : x.drawId.visible x.store.nextId = true := htaken
  rw [insert_of_unnamed hfault he, insertAt, hvisible]
  rfl

theorem insert_of_free (hfree : x.visible x.store.nextId = false) :
    x.insert e = (.ok (Entity.withId e x.store.nextId),
      x.drawId.stageInsert x.store.nextId (Entity.withId e x.store.nextId)) := by
  have hvisible : x.drawId.visible x.store.nextId = false := hfree
  rw [insert_of_unnamed hfault he, insertAt, hvisible]
  rfl

end Unnamed

/-- An insert that has gone through without an identifier has moved the counter on. -/
theorem nextId_of_drawn {e saved : E} (he : ¬ 0 < Entity.id e) (h : (x.insert e).1 = .ok saved) :
    (x.insert e).2.store.nextId = x.store.nextId + 1 := by
  cases hfault : x.store.faults.mutation with
  | some message =>
    simp only [insert, unlessFaulty, hfault] at h
    cases h
  | none =>
    rw [insert_of_unnamed hfault he, store_insertAt]
    rfl

/-! ## One call -/

namespace NamedBeyond

theorem insert (h : x.NamedBeyond Named) {e : E} (hnamed : 0 < Entity.id e → Named (Entity.id e)) :
    (x.insert e).2.NamedBeyond Named := by
  have hle := insert_nextId_le x e
  rcases x.insert_cases e with ⟨failure, -, hwrites⟩ | ⟨hok, hfree, hwrites⟩
  · exact h.of_le hle hwrites
  · refine h.of_staged hle hwrites fun hid change hchange => ?_
    by_cases he : 0 < Entity.id e
    · have hplaced : x.store.placed e = (Entity.id e, e) := if_pos he
      rw [hplaced] at hid hfree hchange
      rw [h.unstaged_of_not_visible (Int.le_trans hle hid) hfree] at hchange
      exact ⟨⟨e, (Option.some.inj hchange).symm⟩, by rw [hplaced]; exact hnamed he⟩
    · -- What is drawn, the counter has passed.
      have hmoved := nextId_of_drawn he hok
      have hplaced : (x.store.placed e).1 = x.store.nextId := by rw [Store.placed, if_neg he]
      omega

theorem update (h : x.NamedBeyond Named) (hahead : x.store.Ahead) (e : E) :
    (x.update e).2.NamedBeyond Named := by
  have hle := Int.le_of_eq (x.update_nextId e).symm
  rcases x.update_cases e with ⟨failure, -, hwrites⟩ | ⟨-, htaken, hwrites⟩
  · exact h.of_le hle hwrites
  · refine h.of_staged hle hwrites fun hid change hchange => ?_
    obtain ⟨⟨before, hbefore⟩, hnamed⟩ :=
      h.staged_of_visible hahead (Int.le_trans hle hid) htaken
    rw [hbefore] at hchange
    exact ⟨⟨e, (Option.some.inj hchange).symm⟩, hnamed⟩

omit [Entity E] in
theorem delete (h : x.NamedBeyond Named) (hahead : x.store.Ahead) (id : Int) :
    (x.delete id).2.NamedBeyond Named := by
  have hle := Int.le_of_eq (x.delete_nextId id).symm
  rcases x.delete_cases id with ⟨-, hwrites⟩ | ⟨-, htaken, hwrites⟩
  · exact h.of_le hle hwrites
  · refine h.of_staged hle hwrites fun hid change hchange => ?_
    -- What the transaction itself inserted is forgotten.
    obtain ⟨⟨before, hbefore⟩, -⟩ := h.staged_of_visible hahead (Int.le_trans hle hid) htaken
    rw [hbefore] at hchange
    cases hchange

omit [Entity E] in
theorem commit (h : x.NamedBeyond Named) : x.commit.2.NamedBeyond Named := by
  rcases x.commit_cases with ⟨failure, y, hy, -, -, -, hwrites⟩ | ⟨-, -, hy⟩
  · rw [hy]
    exact h.of_le (Int.le_of_eq (nextId_of_commit_error hy).symm) hwrites
  · rw [hy]
    exact of_unstaged rfl

omit [Entity E] in
theorem begin (h : x.NamedBeyond Named) : x.begin.2.NamedBeyond Named := by
  unfold Session.begin
  split
  · exact h.of_le (Int.le_refl _) rfl
  · exact of_unstaged rfl

omit [Entity E] in
theorem findById (h : x.NamedBeyond Named) (id : Int) : (x.findById id).2.NamedBeyond Named := by
  unfold Session.findById
  split
  · exact h.of_le (Int.le_refl _) rfl
  · exact h

theorem findAll (h : x.NamedBeyond Named) (q : Query) : (x.findAll q).2.NamedBeyond Named := by
  unfold Session.findAll
  split
  · exact h.of_le (Int.le_refl _) rfl
  · exact h

theorem answer (h : x.NamedBeyond Named) (hahead : x.store.Ahead) {call : Call E}
    (hnames : call.Names Named) : (Session.answer call x).2.NamedBeyond Named := by
  cases call with
  | findAll q => exact h.findAll q
  | findById id => exact h.findById id
  | contains id => exact h.findById id
  | begin => exact h.begin
  | insert e => exact h.insert hnames
  | update e => exact h.update hahead e
  | updatePartial e => exact h.update hahead e
  | delete id => exact h.delete hahead id
  | commit => exact h.commit
  | rollback => exact of_unstaged rfl
  | release => exact h.of_le (Int.le_refl _) rfl

omit [Entity E] in
/-- A commit moves the counter no further than behind the identifiers that were named. -/
theorem commit_nextId_le {limit : Int} (h : x.NamedBeyond (· < limit)) :
    x.commit.2.store.nextId ≤ max x.store.nextId limit := by
  rcases x.commit_cases with ⟨failure, y, hy, -⟩ | ⟨-, -, hy⟩
  · rw [hy, nextId_of_commit_error hy]
    exact Int.le_max_left _ _
  · rw [hy]
    refine Store.nextId_applyList_le (Int.le_max_left _ _) fun ⟨id, change⟩ hentry => ?_
    have hstaged := Std.ExtTreeMap.mem_toList_iff_getElem?_eq_some.mp hentry
    by_cases hid : x.store.nextId ≤ id
    · have hlt := (h id change hid hstaged).2
      omega
    · omega

/-- What is drawn moves the counter by one, and what was named moves it no further than behind
that. -/
theorem answer_nextId_le {limit : Int} (h : x.NamedBeyond (· < limit)) (call : Call E) :
    (Session.answer call x).2.store.nextId ≤ max x.store.nextId limit + 1 := by
  cases call with
  | insert e =>
    change (x.insert e).2.store.nextId ≤ _
    rcases x.insert_nextId e with hmoved | hmoved <;> omega
  | commit =>
    change x.commit.2.store.nextId ≤ _
    have hle := h.commit_nextId_le
    omega
  | _ =>
    rw [answer_nextId (by nofun) (by nofun)]
    omega

end NamedBeyond

end Session

/-! ## Runs -/

namespace World

variable {Named : τ → Int → Prop} {w : World τ E}

/-- Whatever any transaction has staged from the counter on is new there, and under an identifier
that was named in the transaction. -/
def NamedBeyond (Named : τ → Int → Prop) (w : World τ E) : Prop :=
  ∀ tx, (w.session tx).NamedBeyond (Named tx)

theorem namedBeyond_ofStore (s : Store E) : (ofStore s : World τ E).NamedBeyond Named :=
  fun _ => .of_unstaged rfl

variable [DecidableEq τ] [Entity E]

namespace NamedBeyond

omit [Entity E] in
/-- One transaction goes on. The others see at most that the counter has moved. -/
theorem resume (h : w.NamedBeyond Named) {tx : τ} {x : Session E}
    (hx : x.NamedBeyond (Named tx)) (hle : w.store.nextId ≤ x.store.nextId) :
    (w.resume tx x).NamedBeyond Named := by
  intro other
  by_cases ho : other = tx
  · subst ho
    rw [resume_session_self]
    exact hx
  · exact (h other).of_le hle (resume_writes_of_ne w ho x)

theorem step (h : w.NamedBeyond Named) (hahead : w.store.Ahead) {s : Step τ E}
    (hnames : ∀ tx call, s.call? = some (some tx, call) → call.Names (Named tx)) :
    (w.step s).2.NamedBeyond Named := by
  rcases w.step_cases s with ⟨tx?, call, hcall, hstep⟩ | ⟨change, rfl⟩
  · rw [hstep]
    have hle := Session.answer_nextId_le call (w.sessionOf tx?)
    cases tx? with
    | some tx => exact h.resume ((h tx).answer hahead (hnames tx call hcall)) hle
    | none => exact fun other => (h other).of_le hle rfl
  · exact fun other => (h other).of_le (Int.le_refl _) rfl

/-- By induction on the run, each insert of which may name the identifier of its entity. -/
theorem run (h : w.NamedBeyond Named) (hahead : w.store.Ahead) {steps : List (Step τ E)}
    (hnames : ∀ s ∈ steps, ∀ tx call, s.call? = some (some tx, call) → call.Names (Named tx)) :
    (w.run steps).2.NamedBeyond Named := by
  induction steps generalizing w with
  | nil => exact h
  | cons s steps ih =>
    obtain ⟨hfirst, hrest⟩ := List.forall_mem_cons.mp hnames
    exact ih (h.step hahead hfirst) (step_ahead hahead s) hrest

theorem step_nextId_le {limit : Int} (h : w.NamedBeyond fun _ id => id < limit) (s : Step τ E) :
    (w.step s).2.store.nextId ≤ max w.store.nextId limit + 1 := by
  rcases w.step_cases s with ⟨tx?, call, -, hstep⟩ | ⟨change, rfl⟩
  · rw [hstep, store_resumeOf, ← w.store_sessionOf tx?]
    cases tx? with
    | some tx => exact (h tx).answer_nextId_le call
    | none => exact (Session.NamedBeyond.of_unstaged rfl).answer_nextId_le call
  · have hsame : (w.step (.plant change)).2.store.nextId = w.store.nextId := rfl
    omega

/-- By induction on the run, each step of which draws at most one identifier. -/
theorem run_nextId_le {limit : Int} (h : w.NamedBeyond fun _ id => id < limit)
    (hahead : w.store.Ahead) {steps : List (Step τ E)}
    (hnames : ∀ s ∈ steps, ∀ tx call, s.call? = some (some tx, call) → call.Names (· < limit)) :
    (w.run steps).2.store.nextId ≤ max w.store.nextId limit + steps.length := by
  induction steps generalizing w with
  | nil =>
    have hsame : (w.run []).2.store.nextId = w.store.nextId := rfl
    simp only [List.length_nil]
    omega
  | cons s steps ih =>
    obtain ⟨hfirst, hrest⟩ := List.forall_mem_cons.mp hnames
    have hstep := h.step_nextId_le s
    have hrun := ih (h.step hahead hfirst) (step_ahead hahead s) hrest
    rw [run_cons, List.length_cons]
    omega

end NamedBeyond

/-- An entity with an identifier of its own is inserted under it in a transaction of a run. -/
def NamedIn (steps : List (Step τ E)) (tx : τ) (id : Int) : Prop :=
  ∃ e, .insert tx e ∈ steps ∧ Entity.id e = id

omit [DecidableEq τ] in
theorem names_namedIn {steps : List (Step τ E)} {s : Step τ E} (hs : s ∈ steps) {tx : τ}
    {call : Call E} (hcall : s.call? = some (some tx, call)) : call.Names (NamedIn steps tx) := by
  cases s with
  | insert tx' e =>
    cases hcall
    exact fun _ => ⟨e, hs, rfl⟩
  | find id | contains id | list q | plant change => cases hcall
  | _ =>
    cases hcall
    trivial

/-- With all identifiers that are brought to a store below a limit, the counter is beyond the limit
at most by the number of steps. -/
theorem nextId_le_of_limit {entities : List E} {steps : List (Step τ E)} {limit : Int}
    (hpositive : 0 < limit) (hentities : ∀ e ∈ entities, Entity.id e < limit)
    (hsteps : ∀ tx e, .insert tx e ∈ steps → Entity.id e < limit) :
    ((ofStore (.ofList entities) : World τ E).run steps).2.store.nextId ≤ limit + steps.length := by
  let w : World τ E := ofStore (.ofList entities)
  have hstart : w.store.nextId ≤ limit := Store.nextId_ofList_le hpositive hentities
  have hbeyond : w.NamedBeyond fun _ id => id < limit := namedBeyond_ofStore _
  have hnames : ∀ s ∈ steps, ∀ tx call, s.call? = some (some tx, call) →
      call.Names (· < limit) := by
    intro s hs tx call hcall
    refine (names_namedIn hs hcall).imp fun id => ?_
    rintro ⟨e, hinsert, rfl⟩
    exact hsteps tx e hinsert
  have hrun : (w.run steps).2.store.nextId ≤ _ :=
    hbeyond.run_nextId_le (Store.ahead_ofList entities) hnames
  exact Int.le_trans hrun (by omega)

end World

/-! ## Trying again -/

theorem Session.exists_unstaged (writes : WriteSet E) :
    ∃ bound : Int, ∀ id : Int, bound < id → writes[id]? = none := by
  let greatest := writes.toList.foldl (fun greatest entry => max greatest entry.1) 0
  have hkeys := ((Store.foldl_max_le Prod.fst writes.toList 0 greatest).mp (Int.le_refl _)).2
  refine ⟨greatest, fun id hid => Option.eq_none_iff_forall_ne_some.mpr fun change hstaged => ?_⟩
  have hle := hkeys (id, change) (Std.ExtTreeMap.mem_toList_iff_getElem?_eq_some.mpr hstaged)
  exact Int.not_lt.mpr hle hid

/-- Finitely many identifiers are staged and none is committed from the counter on, so there is a
first one that is free. -/
theorem Session.exists_first_free {x : Session E} (hahead : x.store.Ahead) :
    ∃ k : Nat, (∀ i < k, x.visible (x.store.nextId + i) = true) ∧
      x.visible (x.store.nextId + k) = false := by
  obtain ⟨bound, hbound⟩ := exists_unstaged x.writes
  have hfree : ∃ k : Nat, x.visible (x.store.nextId + k) = false := by
    refine ⟨(bound + 1 - x.store.nextId).toNat, ?_⟩
    have hbeyond : bound < x.store.nextId + (bound + 1 - x.store.nextId).toNat := by omega
    rw [visible, hbound _ hbeyond]
    dsimp only
    rw [Store.contains_entities, ← Bool.not_eq_true]
    intro hsome
    have hlt := hahead.behind _ hsome
    omega
  refine ⟨Nat.find hfree, fun i hi => ?_, Nat.find_spec hfree⟩
  exact Bool.not_eq_false _ ▸ Nat.find_min hfree hi

namespace World

variable [DecidableEq τ] [Entity E] {w : World τ E} {tx : τ} {e : E}

/-- The world after some more identifiers have been drawn. -/
def drawnOn (w : World τ E) (k : Nat) : World τ E :=
  ⟨{ w.store with nextId := w.store.nextId + k }, w.writes⟩

omit [DecidableEq τ] [Entity E] in
theorem drawnOn_drawnOn (w : World τ E) (j k : Nat) :
    (w.drawnOn j).drawnOn k = w.drawnOn (j + k) := by
  simp only [drawnOn, Int.add_assoc, Int.natCast_add]

section Unnamed

variable (hfault : w.store.faults.mutation = none) (he : ¬ 0 < Entity.id e)
include hfault he

/-- Where the counter stands at an identifier that is taken, an insert fails and only spends it. -/
theorem step_of_taken (htaken : (w.session tx).visible w.store.nextId = true) :
    w.step (.insert tx e) =
      (.failed (.alreadyExists "entity" (Number.decimal w.store.nextId)), w.drawnOn 1) := by
  have hinsert := Session.insert_of_taken (x := w.session tx) hfault he htaken
  rw [step, within_eq, hinsert]
  have hwrites : (w.resume tx (w.session tx).drawId).writes = w.writes := resume_writes_of_eq rfl
  exact Prod.ext rfl (congrArg (World.mk _) hwrites)

theorem step_of_free (hfree : (w.session tx).visible w.store.nextId = false)
    (hunstaged : (w.writes tx)[w.store.nextId]? = none) :
    (w.step (.insert tx e)).1 = .stored (Entity.withId e w.store.nextId) ∧
      ((w.step (.insert tx e)).2.writes tx)[w.store.nextId]? =
        some (.insert (Entity.withId e w.store.nextId)) := by
  have hinsert := Session.insert_of_free (x := w.session tx) hfault he hfree
  rw [step, within_eq, hinsert]
  refine ⟨rfl, ?_⟩
  have hbefore : (w.session tx).drawId.writes[w.store.nextId]? = none := hunstaged
  have hstaged := Session.getElem?_stageInsert (w.session tx).drawId w.store.nextId
    (Entity.withId e w.store.nextId) w.store.nextId
  rw [if_pos rfl, hbefore] at hstaged
  rw [resume_writes_self]
  exact hstaged

/-- By induction on the tries, each of which spends one identifier. -/
theorem run_tries {k : Nat}
    (htaken : ∀ i < k, (w.session tx).visible (w.store.nextId + i) = true) :
    w.run (List.replicate k (.insert tx e)) = ((List.range k).map fun i : Nat =>
      .failed (.alreadyExists "entity" (Number.decimal (w.store.nextId + i))), w.drawnOn k) := by
  induction k generalizing w with
  | zero => simp [run, drawnOn]
  | succ k ih =>
    have hfirst := step_of_taken hfault he (by simpa using htaken 0 (Nat.succ_pos k))
    have hmoved (i : Nat) : (w.drawnOn 1).store.nextId + i = w.store.nextId + (i + 1 : Nat) := by
      simp only [drawnOn]
      omega
    have hrest := ih (w := w.drawnOn 1) hfault fun i hi => by
      rw [hmoved]
      exact htaken (i + 1) (Nat.succ_lt_succ hi)
    rw [List.replicate_succ, run, hfirst]
    dsimp only
    rw [hrest, drawnOn_drawnOn, Nat.add_comm 1 k]
    simp only [hmoved, List.range_succ_eq_map, List.map_cons, List.map_map]
    simp [Function.comp_def]

end Unnamed

/-- **An entity without an identifier gets one, if not at once.** In every state that any number of
transactions can bring a store to that began with any entities, unless a fault is planted, the
insert of such an entity in any of the transactions goes through the `k + 1`st time it is tried.

* The first `k` identifiers from the counter on are staged in the transaction itself, and each has
  been inserted there with an entity that had it already. The tries fail for them, each of them
  spends one identifier, and nothing else changes.
* The identifier behind them is free in the transaction and not committed, and the entity is staged
  under it. Without staged entities that had their identifiers already, this is the first try.
* With all identifiers that are brought to the store below a limit, the one that it gets is beyond
  the limit at most by the number of steps. On a counter of 64 bits the tries go as described as
  long as that is less than `Number.maxInt64`. -/
theorem unnamed_insert_settles (entities : List E) (steps : List (Step τ E)) (tx : τ) {e : E}
    (he : ¬ 0 < Entity.id e) :
    let v := ((ofStore (.ofList entities) : World τ E).run steps).2
    let first := v.store.nextId
    v.store.faults.mutation = none →
      0 < first ∧ (∀ id, first ≤ id → v.store.get? id = none) ∧
      ∃ k : Nat,
        (∀ i < k, (∃ staged, (v.writes tx)[first + (i : Int)]? = some (.insert staged)) ∧
          NamedIn steps tx (first + i)) ∧
        (v.session tx).visible (first + k) = false ∧
        let tried := v.run (List.replicate k (.insert tx e))
        tried.1 = (List.range k).map (fun i : Nat =>
          .failed (.alreadyExists "entity" (Number.decimal (first + i)))) ∧
        tried.2 = v.drawnOn k ∧
        (tried.2.step (.insert tx e)).1 = .stored (Entity.withId e (first + k)) ∧
        ((tried.2.step (.insert tx e)).2.writes tx)[first + (k : Int)]? =
          some (.insert (Entity.withId e (first + k))) ∧
        ∀ limit : Int, 0 < limit → (∀ held ∈ entities, Entity.id held < limit) →
          (∀ other named, .insert other named ∈ steps → Entity.id named < limit) →
            first + k ≤ limit + steps.length := by
  intro v first hfault
  have hbegin : (ofStore (.ofList entities) : World τ E).store.Ahead := Store.ahead_ofList entities
  have hahead : v.store.Ahead := run_ahead hbegin steps
  have hnamed : v.NamedBeyond (NamedIn steps) :=
    (namedBeyond_ofStore _).run hbegin fun s hs tx call => names_namedIn hs
  obtain ⟨k, htaken, hfree⟩ := (v.session tx).exists_first_free hahead
  have hbeyond (i : Nat) : first ≤ first + i := by omega
  refine ⟨hahead.positive, fun id hid => ?_, k, fun i hi => ?_, hfree, ?_⟩
  · refine Option.not_isSome_iff_eq_none.mp fun hsome => ?_
    exact Int.not_lt.mpr hid (hahead.behind id hsome)
  · exact (hnamed tx).staged_of_visible hahead (hbeyond i) (htaken i hi)
  · intro tried
    have htried : tried = _ := run_tries hfault he htaken
    have hunstaged := (hnamed tx).unstaged_of_not_visible (hbeyond k) hfree
    obtain ⟨hstored, hstaged⟩ := step_of_free (w := v.drawnOn k) hfault he hfree hunstaged
    rw [htried]
    refine ⟨rfl, rfl, hstored, hstaged, fun limit hpositive hentities hsteps => ?_⟩
    have hbounded : first ≤ limit + steps.length := nextId_le_of_limit hpositive hentities hsteps
    cases k with
    | zero =>
      simpa using hbounded
    | succ k =>
      -- The last identifier that is taken has been named.
      obtain ⟨-, named, hnamed, hid⟩ :=
        (hnamed tx).staged_of_visible hahead (hbeyond k) (htaken k (Nat.lt_succ_self k))
      have hlt := hsteps tx named hnamed
      omega

/-- In an empty stock two items are staged that have the numbers 1 and 2 already, and in another
transaction one that has the number 4. -/
def numbering : List (Step Nat Item) :=
  [.begin 0, .begin 1, .insert 0 ⟨1, "pen", 5, none⟩, .insert 0 ⟨2, "nib", 1, none⟩,
    .insert 1 ⟨4, "cup", 9, none⟩]

/-- An item without a number gets the third one, the third time. -/
theorem unnamed_insert_settles_third :
    let v := ((ofStore (.ofList []) : World Nat Item).run numbering).2
    let ink : Item := ⟨0, "ink", 8, none⟩
    v.store.faults.mutation = none ∧ ¬ 0 < Entity.id ink ∧
      let tried := v.run [.insert 0 ink, .insert 0 ink]
      tried.1 = [.failed (.alreadyExists "entity" "1"), .failed (.alreadyExists "entity" "2")] ∧
      (tried.2.step (.insert 0 ink)).1 = .stored ⟨3, "ink", 8, none⟩ := by
  intro v ink
  have hink : ¬ 0 < Entity.id ink := by decide
  obtain ⟨-, -, k, htaken, hfree, htried, -, hstored, -⟩ :=
    unnamed_insert_settles [] numbering 0 hink rfl
  obtain rfl : k = 2 := by
    match k with
    | 0 => cases hfree
    | 1 => cases hfree
    | 2 => rfl
    | k + 3 =>
      obtain ⟨⟨staged, hstaged⟩, -⟩ := htaken 2 (by omega)
      cases hstaged
  exact ⟨rfl, hink, htried, hstored⟩

/-- An item without a number is not stored where the next number is staged. -/
theorem unnamed_insert_fails :
    let v := ((ofStore (.ofList []) : World Nat Item).run
      [.begin 0, .insert 0 ⟨1, "pen", 5, none⟩]).2
    let ink : Item := ⟨0, "ink", 8, none⟩
    v.store.faults.mutation = none ∧ ¬ 0 < Entity.id ink ∧
      (v.step (.insert 0 ink)).1 = .failed (.alreadyExists "entity" "1") :=
  ⟨rfl, by decide, rfl⟩

end World

end ResourceApi
