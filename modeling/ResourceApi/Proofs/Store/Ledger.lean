import ResourceApi.Proofs.Store.Sessions
import ResourceApi.Store.Batch

/-!
# Staged changes as changes made at once

A ledger is a plain map of entities: a change of it takes place at once, and nothing is staged. A
transaction that nobody else interferes with answers its changes as a ledger does that has begun
with the committed entities, and what it stages lies over them as the ledger stands.

## Main definitions

- `Ledger`, `Ledger.change` — entities under identifiers, and one change of them
- `Session.Sound` — what is staged agrees with the committed entities
- `Session.Mirrors` — a session shows what a ledger holds
- `Change.act` — one change of a session
- `Batch.inOrder` — several changes, up to the first one that fails

## Design notes

Identifiers are drawn from a counter that only draws move. A transaction leaves the counter alone
when it stages an entity under an identifier of its own, so a ledger does too.
-/

namespace ResourceApi

variable {E σ ρ α β : Type}

/-! ## Changes made at once -/

/-- Entities under identifiers. -/
structure Ledger (E : Type) where
  /-- The entity under an identifier. -/
  entity? : Int → Option E
  /-- The next identifier to draw. -/
  nextId : Int
  /-- Whether the next removal is refused. -/
  refusing : Bool

def Store.ledger (s : Store E) : Ledger E := ⟨s.get?, s.nextId, s.faults.refuseDelete⟩

namespace Ledger

/-- The ledger with something else, or nothing, under an identifier. -/
def put (l : Ledger E) (id : Int) (value? : Option E) : Ledger E :=
  { l with entity? := fun other => if other = id then value? else l.entity? other }

theorem entity?_put (l : Ledger E) (id : Int) (value? : Option E) (other : Int) :
    (l.put id value?).entity? other = if other = id then value? else l.entity? other := rfl

/-- Adds an entity under an identifier that has to be free. -/
def add (l : Ledger E) (id : Int) (e : E) : Reply (Change.Effect E) × Ledger E :=
  if (l.entity? id).isSome then (.failed (.alreadyExists "entity" (Number.decimal id)), l)
  else (.returned (.stored e), l.put id (some e))

variable [Entity E]

/-- Adds an entity under its own identifier, if it has one, and else under a drawn one. -/
def insert (l : Ledger E) (e : E) : Reply (Change.Effect E) × Ledger E :=
  if 0 < Entity.id e then l.add (Entity.id e) e
  else { l with nextId := l.nextId + 1 }.add l.nextId (Entity.withId e l.nextId)

/-- Puts an entity in the place of one. -/
def replace (l : Ledger E) (e : E) : Reply (Change.Effect E) × Ledger E :=
  if (l.entity? (Entity.id e)).isSome then
    (.returned (.stored e), l.put (Entity.id e) (some e))
  else (.failed (.notFound "entity" (Number.decimal (Entity.id e))), l)

omit [Entity E] in
/-- Removes what is under an identifier. A removal that is refused removes nothing. -/
def remove (l : Ledger E) (id : Int) : Reply (Change.Effect E) × Ledger E :=
  if l.refusing then (.returned (.removed false), { l with refusing := false })
  else (.returned (.removed (l.entity? id).isSome), l.put id none)

def change : Change E → Ledger E → Reply (Change.Effect E) × Ledger E
  | .insert e, l => l.insert e
  | .update e, l | .updatePartial e, l => l.replace e
  | .delete id, l => l.remove id
  | .fail failure, l => (.failed failure, l)
  | .crash message, l => (.crashed message, l)

end Ledger

/-! ## Staging -/

/-- A staged change that suits what is committed: an insert where nothing is, anything else where
something is. -/
def Staged.Suits (committed : Option E) : Staged E → Prop
  | .insert _ => committed = none
  | .update _ | .delete => committed.isSome

namespace Session

def Sound (x : Session E) : Prop :=
  ∀ (id : Int) (change : Staged E), x.writes[id]? = some change → change.Suits (x.store.get? id)

/-- What suits the committed entities does not contradict them. -/
theorem Sound.not_contradicted {x : Session E} (h : x.Sound) :
    ¬ x.store.Contradicted x.writes := by
  rintro ⟨id, change, hstaged, hcontra⟩
  have hsuits : change.Suits (x.store.get? id) := h id change hstaged
  rcases (Store.contradicts_iff _ _ _).mp hcontra with ⟨⟨e, rfl⟩, htaken⟩ | ⟨⟨e, rfl⟩, hfree⟩
  · rw [show x.store.get? id = none from hsuits] at htaken
    cases htaken
  · have htaken : (x.store.get? id).isSome := hsuits
    rw [hfree] at htaken
    cases htaken

/-- The entity under an identifier, as seen from inside the transaction. -/
def seen (x : Session E) : Int → Option E := overlay x.store.get? x.writes

theorem visible_eq_isSome (x : Session E) (id : Int) : x.visible id = (x.seen id).isSome := by
  unfold visible seen overlay
  cases x.writes[id]? with
  | none => exact x.store.contains_entities id
  | some change => cases change <;> rfl

theorem seen_stage (x : Session E) (id : Int) (change : Staged E) (other : Int) :
    (x.stage id change).seen other = if other = id then change.value? else x.seen other := by
  by_cases ho : other = id
  · subst ho
    rw [if_pos rfl]
    exact overlay_of_staged Std.ExtTreeMap.getElem?_insert_self
  · have hne : compare id other ≠ .eq := fun he => ho (Std.compare_eq_iff_eq.mp he).symm
    rw [if_neg ho]
    simp only [seen, overlay, stage, Std.ExtTreeMap.getElem?_insert, if_neg hne]

theorem sound_stage {x : Session E} {id : Int} {change : Staged E} (h : x.Sound)
    (hsuits : change.Suits (x.store.get? id)) : (x.stage id change).Sound := by
  intro other found hfound
  by_cases ho : other = id
  · subst ho
    have hsame : change = found :=
      Option.some.inj (Std.ExtTreeMap.getElem?_insert_self.symm.trans hfound)
    exact hsame ▸ hsuits
  · have hne : compare id other ≠ .eq := fun he => ho (Std.compare_eq_iff_eq.mp he).symm
    simp only [stage, Std.ExtTreeMap.getElem?_insert, if_neg hne] at hfound
    exact h other found hfound

/-- A session that shows one identifier differently. -/
structure Shows (x y : Session E) (id : Int) (value? : Option E) : Prop where
  store : y.store = x.store
  seen : ∀ other, y.seen other = if other = id then value? else x.seen other
  sound : y.Sound

theorem shows_stage {x : Session E} {id : Int} {change : Staged E} (h : x.Sound)
    (hsuits : change.Suits (x.store.get? id)) :
    x.Shows (x.stage id change) id change.value? :=
  ⟨rfl, seen_stage x id change, sound_stage h hsuits⟩

/-- Forgetting what is staged under an identifier where nothing is committed leaves
nothing there. -/
theorem shows_forget {x : Session E} {id : Int} (h : x.Sound) (hnone : x.store.get? id = none) :
    x.Shows ⟨x.store, x.writes.erase id⟩ id none where
  store := rfl
  seen other := by
    by_cases ho : other = id
    · subst ho
      rw [if_pos rfl, ← hnone]
      exact overlay_of_unstaged Std.ExtTreeMap.getElem?_erase_self
    · have hne : compare id other ≠ .eq := fun he => ho (Std.compare_eq_iff_eq.mp he).symm
      rw [if_neg ho]
      simp only [Session.seen, overlay, Std.ExtTreeMap.getElem?_erase, if_neg hne]
  sound := by
    intro other found hfound
    by_cases ho : compare id other = .eq
    · simp [ho] at hfound
    · rw [Std.ExtTreeMap.getElem?_erase, if_neg ho] at hfound
      exact h other found hfound

theorem seen_of_unstaged {x : Session E} {id : Int} (h : x.writes[id]? = none) :
    x.seen id = x.store.get? id := overlay_of_unstaged h

theorem seen_of_staged {x : Session E} {id : Int} {change : Staged E}
    (h : x.writes[id]? = some change) : x.seen id = change.value? := overlay_of_staged h

/-- An entity is staged where none is seen: the identifier was free all along, or the transaction
itself has freed it. -/
theorem shows_stageInsert {x : Session E} {id : Int} (h : x.Sound) (hfree : x.seen id = none)
    (e : E) : x.Shows (x.stageInsert id e) id (some e) := by
  unfold stageInsert
  cases hw : x.writes[id]? with
  | none => exact shows_stage h ((seen_of_unstaged hw).symm.trans hfree)
  | some change =>
    have hvalue := (seen_of_staged hw).symm.trans hfree
    cases change with
    | insert e => cases hvalue
    | update e => cases hvalue
    | delete => exact shows_stage h (h id .delete hw)

/-- An entity is staged in the place of one that is seen. -/
theorem shows_stageUpdate {x : Session E} {id : Int} (h : x.Sound)
    (htaken : (x.seen id).isSome) (e : E) : x.Shows (x.stageUpdate id e) id (some e) := by
  unfold stageUpdate
  cases hw : x.writes[id]? with
  | none =>
    rw [seen_of_unstaged hw] at htaken
    exact shows_stage h htaken
  | some change =>
    rw [seen_of_staged hw] at htaken
    cases change with
    | insert old => exact shows_stage h (h id (.insert old) hw)
    | update old => exact shows_stage h (h id (.update old) hw)
    | delete => cases htaken

/-- The removal of an entity that is seen is staged; of one that the transaction itself has inserted
nothing stays staged. -/
theorem shows_stageDelete {x : Session E} {id : Int} (h : x.Sound)
    (htaken : (x.seen id).isSome) : x.Shows (x.stageDelete id) id none := by
  unfold stageDelete
  cases hw : x.writes[id]? with
  | none =>
    rw [seen_of_unstaged hw] at htaken
    exact shows_stage h htaken
  | some change =>
    cases change with
    | update old => exact shows_stage h (h id (.update old) hw)
    | delete => exact shows_stage h (h id .delete hw)
    -- The insert is forgotten, and what is committed shows again: nothing.
    | insert old => exact shows_forget h (h id (.insert old) hw)

end Session

/-! ## One change of a session -/

def Reply.map (f : α → β) : Reply α → Reply β
  | .returned value => .returned (f value)
  | .failed failure => .failed failure
  | .crashed message => .crashed message

def Change.act [Entity E] : Change E → Session E → Reply (Change.Effect E) × Session E
  | .insert e, x => ((Reply.ofExcept (x.insert e).1).map .stored, (x.insert e).2)
  | .update e, x | .updatePartial e, x =>
    ((Reply.ofExcept (x.update e).1).map .stored, (x.update e).2)
  | .delete id, x => ((Reply.ofExcept (x.delete id).1).map .removed, (x.delete id).2)
  | .fail failure, x => (.failed failure, x)
  | .crash message, x => (.crashed message, x)

namespace Session

/-- A session of a transaction that has begun with the store `s` shows what a ledger holds, and the
next change is not made to fail. -/
structure Mirrors (s : Store E) (x : Session E) (l : Ledger E) : Prop where
  entities : x.store.entities = s.entities
  tally : x.store.tally = s.tally
  commitFault : x.store.faults.commit = s.faults.commit
  mutationFault : x.store.faults.mutation = none
  nextId : x.store.nextId = l.nextId
  refusing : x.store.faults.refuseDelete = l.refusing
  seen : x.seen = l.entity?
  sound : x.Sound

variable {s : Store E} {x y : Session E} {l : Ledger E}

theorem Mirrors.visible (h : x.Mirrors s l) (id : Int) :
    x.visible id = (l.entity? id).isSome := by
  rw [visible_eq_isSome, h.seen]

theorem Mirrors.put (h : x.Mirrors s l) {id : Int} {value? : Option E}
    (hy : x.Shows y id value?) : y.Mirrors s (l.put id value?) where
  entities := hy.store ▸ h.entities
  tally := hy.store ▸ h.tally
  commitFault := hy.store ▸ h.commitFault
  mutationFault := hy.store ▸ h.mutationFault
  nextId := hy.store ▸ h.nextId
  refusing := hy.store ▸ h.refusing
  seen := by
    funext other
    rw [hy.seen, h.seen, Ledger.entity?_put]
  sound := hy.sound

theorem Mirrors.drawId (h : x.Mirrors s l) :
    x.drawId.Mirrors s { l with nextId := l.nextId + 1 } :=
  { h with nextId := congrArg (· + 1) h.nextId }

theorem Mirrors.unlessFaulty (h : x.Mirrors s l) (step : Failure.Step)
    (change : Session E → Except Failure α × Session E) :
    x.unlessFaulty step change = change x := by
  simp only [Session.unlessFaulty, h.mutationFault]

theorem Mirrors.insertAt (h : x.Mirrors s l) (id : Int) (e : E) :
    (Reply.ofExcept (x.insertAt id e).1).map .stored = (l.add id e).1 ∧
      (x.insertAt id e).2.Mirrors s (l.add id e).2 := by
  unfold Session.insertAt Ledger.add
  rw [h.visible]
  cases hseen : l.entity? id with
  | some old => exact ⟨rfl, h⟩
  | none =>
    have hfree : x.seen id = none := by rw [h.seen, hseen]
    exact ⟨rfl, h.put (shows_stageInsert h.sound hfree e)⟩

theorem Mirrors.refused (h : x.Mirrors s l) :
    Mirrors s ⟨x.store.withFaults { x.store.faults with refuseDelete := false }, x.writes⟩
      { l with refusing := false } :=
  { h with refusing := rfl }

/-- Removing what is not there changes nothing. -/
theorem Mirrors.put_none (h : x.Mirrors s l) {id : Int} (hfree : l.entity? id = none) :
    x.Mirrors s (l.put id none) := by
  refine { h with seen := ?_ }
  rw [h.seen]
  funext other
  by_cases ho : other = id
  · rw [Ledger.entity?_put, if_pos ho, ho, hfree]
  · rw [Ledger.entity?_put, if_neg ho]

theorem Mirrors.delete (h : x.Mirrors s l) (id : Int) :
    (Reply.ofExcept (x.delete id).1).map .removed = (l.remove id).1 ∧
      (x.delete id).2.Mirrors s (l.remove id).2 := by
  unfold Session.delete Ledger.remove
  rw [h.unlessFaulty, h.refusing, h.visible]
  cases l.refusing with
  | true => exact ⟨rfl, h.refused⟩
  | false =>
    cases hseen : l.entity? id with
    | none => exact ⟨rfl, h.put_none hseen⟩
    | some old =>
      have htaken : (x.seen id).isSome := by rw [h.seen, hseen]; rfl
      exact ⟨rfl, h.put (shows_stageDelete h.sound htaken)⟩

variable [Entity E]

theorem Mirrors.insert (h : x.Mirrors s l) (e : E) :
    (Reply.ofExcept (x.insert e).1).map .stored = (l.insert e).1 ∧
      (x.insert e).2.Mirrors s (l.insert e).2 := by
  unfold Session.insert Ledger.insert
  rw [h.unlessFaulty]
  by_cases hid : 0 < Entity.id e
  · simp only [if_pos hid]
    exact h.insertAt (Entity.id e) e
  · simp only [if_neg hid, h.nextId]
    exact h.drawId.insertAt l.nextId (Entity.withId e l.nextId)

theorem Mirrors.update (h : x.Mirrors s l) (e : E) :
    (Reply.ofExcept (x.update e).1).map .stored = (l.replace e).1 ∧
      (x.update e).2.Mirrors s (l.replace e).2 := by
  unfold Session.update Ledger.replace
  rw [h.unlessFaulty, h.visible]
  cases hseen : (l.entity? (Entity.id e)).isSome with
  | false => exact ⟨rfl, h⟩
  | true =>
    have htaken : (x.seen (Entity.id e)).isSome := by rw [h.seen, hseen]
    exact ⟨rfl, h.put (shows_stageUpdate h.sound htaken e)⟩

/-- **A transaction answers as a ledger.** A change that is not made to fail has the reply that the
ledger gives, and the session goes on showing what the ledger holds. -/
theorem Mirrors.act (h : x.Mirrors s l) (c : Change E) :
    (c.act x).1 = (Ledger.change c l).1 ∧ (c.act x).2.Mirrors s (Ledger.change c l).2 := by
  cases c with
  | insert e => exact h.insert e
  | update e => exact h.update e
  | updatePartial e => exact h.update e
  | delete id => exact h.delete id
  | fail failure => exact ⟨rfl, h⟩
  | crash message => exact ⟨rfl, h⟩

end Session

/-! ## Several changes -/

namespace Batch

/-- Several changes, each made by `step`, up to the first one that does not return. -/
def inOrder (step : Change E → σ → Reply (Change.Effect E) × σ) :
    List (Change E) → σ → Reply (List (Change.Effect E)) × σ
  | [], x => (.returned [], x)
  | c :: changes, x =>
    match step c x with
    | (.returned effect, y) =>
      ((inOrder step changes y).1.map (effect :: ·), (inOrder step changes y).2)
    | (.failed failure, y) => (.failed failure, y)
    | (.crashed message, y) => (.crashed message, y)

/-- What every change keeps, all of them keep. -/
theorem inOrder_keeps {step : Change E → σ → Reply (Change.Effect E) × σ} {I : σ → Prop}
    (hstep : ∀ c x, I x → I (step c x).2) (changes : List (Change E)) {x : σ} (h : I x) :
    I (inOrder step changes x).2 := by
  induction changes generalizing x with
  | nil => exact h
  | cons c changes ih =>
    have hnext : I (step c x).2 := hstep c x h
    rw [inOrder]
    match hc : step c x with
    | (.returned effect, y) =>
      rw [hc] at hnext
      exact ih hnext
    | (.failed failure, y) => rwa [hc] at hnext
    | (.crashed message, y) => rwa [hc] at hnext

/-- Two ways to make a change that agree on one change agree on several. -/
theorem inOrder_agree {step : Change E → σ → Reply (Change.Effect E) × σ}
    {step' : Change E → ρ → Reply (Change.Effect E) × ρ} {R : σ → ρ → Prop}
    (hstep : ∀ c x y, R x y → (step c x).1 = (step' c y).1 ∧ R (step c x).2 (step' c y).2)
    (changes : List (Change E)) {x : σ} {y : ρ} (h : R x y) :
    (inOrder step changes x).1 = (inOrder step' changes y).1 ∧
      R (inOrder step changes x).2 (inOrder step' changes y).2 := by
  induction changes generalizing x y with
  | nil => exact ⟨rfl, h⟩
  | cons c changes ih =>
    obtain ⟨hreply, hnext⟩ := hstep c x y h
    rw [inOrder, inOrder]
    -- The replies are the same, so both go on or both stop.
    revert hreply hnext
    obtain ⟨reply, x⟩ := step c x
    obtain ⟨reply', y⟩ := step' c y
    rintro (rfl : reply = reply') hnext
    cases reply with
    | returned effect =>
      obtain ⟨hreplies, hlast⟩ := ih hnext
      exact ⟨congrArg (Reply.map (effect :: ·)) hreplies, hlast⟩
    | failed failure => exact ⟨rfl, hnext⟩
    | crashed message => exact ⟨rfl, hnext⟩

end Batch

end ResourceApi
