import ResourceApi.Proofs.Store.Holdings

/-!
# Identifiers are drawn once

An entity without an identifier is inserted under the one that the counter stands at, and the
counter moves on at once. Commits move it behind what they publish, and nothing turns it back. So no
drawn identifier is one that any entity has ever been committed under, or that was drawn before.

## Main definitions

- `Filed` — what stands under an identifier has it for its own
- `World.drawn?` — the identifier that a step draws
- `World.drawings` — the identifiers that a run draws

## Main results

- `World.drawings_ascend` — identifiers are drawn in ascending order
- `World.drawn_once` — a store that any number of transactions work on
-/

namespace ResourceApi

variable {τ E : Type} [Entity E]

/-- Every entity stands under its own identifier. -/
def Filed (id : Int) (held : Option E) : Prop := ∀ e, held = some e → Entity.id e = id

/-- No call brings an entity to another identifier than its own. -/
theorem Call.brings_filed (hid : ∀ (e : E) (id : Int), Entity.id (Entity.withId e id) = id)
    (call : Call E) (s : Store E) : call.Brings Filed s := by
  cases call with
  | insert e =>
    intro placed hplaced
    rw [← Option.some.inj hplaced, Store.placed]
    split
    · rfl
    · exact hid e s.nextId
  | update e | updatePartial e =>
    intro saved hsaved
    rw [← Option.some.inj hsaved]
  | delete id =>
    intro held hnone
    cases hnone
  | _ => trivial

namespace World

theorem holds_filed_ofList (entities : List E) :
    (ofStore (.ofList entities) : World τ E).Holds Filed where
  committed _ _ he := (Store.get?_ofList he).2
  staged tx id change hstaged := by simp [ofStore] at hstaged

variable [DecidableEq τ] {w : World τ E}

/-! ## Drawing -/

/-- The identifier that a step draws: an insert draws one for an entity that has none, unless a
fault strikes first. It is spent even if the insert fails or is rolled back. -/
def drawn? (w : World τ E) : Step τ E → Option Int
  | .insert _ e =>
    match w.store.faults.mutation with
    | some _ => none
    | none => if 0 < Entity.id e then none else some w.store.nextId
  | _ => none

/-- The identifiers that a run draws, in the order of the draws. -/
def drawings (w : World τ E) : List (Step τ E) → List Int
  | [] => []
  | s :: steps => (w.drawn? s).toList ++ (w.step s).2.drawings steps

/-- An identifier is drawn from the counter, which moves on by one. -/
theorem step_of_drawn {s : Step τ E} {id : Int} (h : w.drawn? s = some id) :
    id = w.store.nextId ∧ (w.step s).2.store.nextId = id + 1 := by
  cases s with
  | insert tx e =>
    unfold drawn? at h
    cases hfault : w.store.faults.mutation with
    | some message =>
      rw [hfault] at h
      cases h
    | none =>
      rw [hfault] at h
      dsimp only at h
      split at h
      · cases h
      · next hunnamed =>
        obtain rfl := Option.some.inj h
        refine ⟨rfl, ?_⟩
        have hsession : (w.session tx).store.faults.mutation = none := hfault
        simp only [step, within_eq, resume, Session.insert, Session.unlessFaulty, hsession,
          if_neg hunnamed, Session.store_insertAt]
        rfl
  | _ => cases h

/-- An insert of an entity without an identifier that goes through has drawn the one it answers
with. -/
theorem drawn?_of_stored (hid : ∀ (e : E) (id : Int), Entity.id (Entity.withId e id) = id)
    {tx : τ} {e saved : E} (he : ¬ 0 < Entity.id e)
    (h : (w.step (.insert tx e)).1 = .stored saved) :
    w.drawn? (.insert tx e) = some (Entity.id saved) := by
  rw [step, within_eq] at h
  cases hfault : w.store.faults.mutation with
  | some message =>
    have hsession : (w.session tx).store.faults.mutation = some message := hfault
    simp only [Session.insert, Session.unlessFaulty, hsession] at h
    cases h
  | none =>
    rcases (w.session tx).insert_cases e with ⟨failure, hfailed, -⟩ | ⟨hok, -⟩
    · rw [hfailed] at h
      cases h
    · rw [hok] at h
      have hsaved : Entity.withId e w.store.nextId = saved := by
        rw [← Answer.stored.inj h, Store.placed, if_neg he]
        rfl
      rw [← hsaved, hid]
      simp only [drawn?, hfault, if_neg he]

/-- What is drawn stands between the counter before and the counter behind the run. -/
theorem drawings_bounds {steps : List (Step τ E)} {id : Int} (h : id ∈ w.drawings steps) :
    w.store.nextId ≤ id ∧ id < (w.run steps).2.store.nextId := by
  induction steps generalizing w with
  | nil => exact absurd h List.not_mem_nil
  | cons s steps ih =>
    rw [run_cons]
    have hstep := w.step_nextId_le s
    rcases List.mem_append.mp h with hfirst | hrest
    · obtain ⟨hdrawn, hmoved⟩ := step_of_drawn (Option.mem_toList.mp hfirst)
      have hrun := (w.step s).2.run_nextId_le steps
      omega
    · have hbounds := ih hrest
      omega

/-- By induction on the run: what a step draws is behind the counter from then on. -/
theorem drawings_ascend (w : World τ E) (steps : List (Step τ E)) :
    (w.drawings steps).Pairwise (· < ·) := by
  induction steps generalizing w with
  | nil => exact List.Pairwise.nil
  | cons s steps ih =>
    refine List.pairwise_append.mpr ⟨?_, ih (w.step s).2, ?_⟩
    · cases w.drawn? s with
      | none => exact List.Pairwise.nil
      | some id => exact List.pairwise_singleton _ _
    · intro early hearly late hlate
      obtain ⟨-, hmoved⟩ := step_of_drawn (Option.mem_toList.mp hearly)
      obtain ⟨hle, -⟩ := drawings_bounds hlate
      omega

/-- **Identifiers are drawn once**, over every run of any number of transactions on a store that
begins with any entities:

* every committed entity stands under its own identifier and in front of the counter, which is at
  least one and never turned back;
* no two identifiers drawn are the same, and an insert that draws one answers with it;
* an identifier is positive when it is drawn, and no entity has ever been committed under it. -/
theorem drawn_once (hid : ∀ (e : E) (id : Int), Entity.id (Entity.withId e id) = id)
    (entities : List E) (steps : List (Step τ E)) :
    let w : World τ E := ofStore (.ofList entities)
    let v := (w.run steps).2
    (∀ id e, v.store.get? id = some e → Entity.id e = id ∧ id < v.store.nextId) ∧
      1 ≤ v.store.nextId ∧
      (∀ s, v.store.nextId ≤ (v.step s).2.store.nextId) ∧
      (w.drawings steps).Pairwise (· < ·) ∧
      (∀ tx e saved, ¬ 0 < Entity.id e → (v.step (.insert tx e)).1 = .stored saved →
        v.drawn? (.insert tx e) = some (Entity.id saved)) ∧
      ∀ s id, v.drawn? s = some id →
        0 < id ∧ v.store.get? id = none ∧ id ∉ w.drawings steps ∧
          ∀ earlier, earlier <+: steps → (w.run earlier).2.store.get? id = none := by
  intro w v
  have hholds : v.Holds Filed := (holds_filed_ofList entities).run (Call.brings_filed hid) steps
  have hbegin : w.store.Ahead := Store.ahead_ofList entities
  have hahead : v.store.Ahead := run_ahead hbegin steps
  refine ⟨fun id e he => ⟨hholds.committed id e he, hahead.behind id ?_⟩, hahead.positive,
    v.step_nextId_le, w.drawings_ascend steps, fun tx e saved => drawn?_of_stored hid, ?_⟩
  · exact Option.isSome_of_eq_some he
  · intro s id hdrawn
    obtain ⟨rfl, -⟩ := step_of_drawn hdrawn
    refine ⟨hahead.positive, hahead.free, ?_, ?_⟩
    · intro hmem
      obtain ⟨-, hlt⟩ := drawings_bounds hmem
      exact Int.lt_irrefl _ hlt
    · rintro earlier ⟨later, rfl⟩
      -- What was committed then was in front of the counter, which has not been turned back since.
      have hle : (w.run earlier).2.store.nextId ≤ v.store.nextId := by
        rw [show v = ((w.run earlier).2.run later).2 from run_append w earlier later]
        exact run_nextId_le _ later
      refine Option.not_isSome_iff_eq_none.mp fun hsome => ?_
      have hlt := (run_ahead hbegin earlier).behind _ hsome
      omega

/-- A stock that begins with a negative identifier and a double one. What is drawn in a transaction
that is rolled back, and in one whose commit fails, is not drawn again, nor is what was removed. -/
theorem drawn_once_stocktaking :
    let entities : List Item := [⟨2, "pen", 5, none⟩, ⟨-3, "ink", 8, none⟩, ⟨2, "nib", 1, none⟩]
    let steps : List (Step Nat Item) := [.begin 0, .insert 0 ⟨0, "cap", 1, none⟩, .rollback 0,
      .begin 1, .insert 1 ⟨-7, "cup", 1, none⟩, .insert 1 ⟨9, "mug", 4, none⟩,
      .plant fun faults => { faults with commit := some "full" }, .commit 1, .begin 2,
      .insert 2 ⟨0, "box", 1, none⟩, .commit 1, .delete 2 2, .commit 2]
    let w : World Nat Item := ofStore (.ofList entities)
    let v := (w.run steps).2
    (∀ (e : Item) (id : Int), Entity.id (Entity.withId e id) = id) ∧
      w.drawings steps = [3, 4, 5] ∧ v.store.nextId = 10 ∧
      v.store.toList.map Item.id = [-3, 4, 5, 9] ∧
      v.drawn? (.insert 0 ⟨0, "jar", 1, none⟩) = some 10 ∧
      ∀ earlier, earlier <+: steps → (w.run earlier).2.store.get? 10 = none := by
  intro entities steps w v
  have hid : ∀ (e : Item) (id : Int), Entity.id (Entity.withId e id) = id := fun _ _ => rfl
  obtain ⟨-, -, -, -, -, hdrawn⟩ := @drawn_once Nat Item _ _ hid entities steps
  have hnext : v.drawn? (.insert 0 ⟨0, "jar", 1, none⟩) = some 10 := by decide +kernel
  obtain ⟨-, -, -, hearlier⟩ := hdrawn _ _ hnext
  exact ⟨hid, by decide +kernel, by decide +kernel, by decide +kernel, hnext, hearlier⟩

end World

end ResourceApi
