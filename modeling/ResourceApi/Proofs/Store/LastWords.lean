import ResourceApi.Proofs.Store.Changes
import ResourceApi.Proofs.Store.History

/-!
# The last word of a transaction

A transaction says words of an identifier: the changes of it that go through. When its commit
succeeds, an entity that was its last word stands under the identifier, whatever other transactions
have committed meanwhile. A removal that was its last word leaves the identifier free if the
transaction has there changed what others had committed. If it has only taken back what it had
itself inserted, the commit says nothing of the identifier.

## Main definitions

- `World.words` — what a run says of an identifier in a transaction
- `Standing` — how a transaction stands to an identifier, by its words
- `World.StaysOpen` — a run that does not end a transaction
- `World.Records` — what is staged moves on with what a step says

## Main results

- `World.records_of_step` — what a step stages under an identifier
- `Backs.next` — what is staged agrees with the words, one word after the other
- `World.commit_publishes_last_word` — what a successful commit leaves under an identifier
-/

namespace ResourceApi

variable {τ E : Type}

deriving instance DecidableEq for Staged, Answer

/-! ## Words -/

namespace Step

/-- The transaction and the identifier that a change is about. -/
def about? [Entity E] (s : Store E) : Step τ E → Option (τ × Int)
  | .insert tx e => some (tx, (s.placed e).1)
  | .update tx e | .updatePartial tx e => some (tx, Entity.id e)
  | .delete tx id => some (tx, id)
  | _ => none

/-- The change that a step has made, by its answer. -/
def word? : Step τ E → Answer E → Option (Staged E)
  | .insert .., .stored e => some (.insert e)
  | .update .., .stored e | .updatePartial .., .stored e => some (.update e)
  | .delete .., .removed true => some .delete
  | _, _ => none

/-- A step that does not end a transaction, by its answer. A commit that fails does not. -/
def KeepsOpen (tx : τ) : Step τ E → Answer E → Prop
  | .begin other, _ | .rollback other, _ => other ≠ tx
  | .commit other, answer => other = tx → ∃ failure, answer = .failed failure
  | _, _ => True

theorem KeepsOpen.not_empties {tx : τ} {s : Step τ E} {answer : Answer E}
    (h : s.KeepsOpen tx answer) : ¬s.Empties tx answer := by
  cases s with
  | begin other => exact fun he => h he.1
  | rollback other => exact h
  | commit other =>
    rintro ⟨rfl, rfl⟩
    obtain ⟨failure, hfailed⟩ := h rfl
    cases hfailed
  | _ => exact not_false

end Step

namespace World

variable [DecidableEq τ] [Entity E]

/-- What a step says of an identifier in a transaction. -/
def word? (w : World τ E) (tx : τ) (id : Int) (s : Step τ E) : Option (Staged E) :=
  if s.about? w.store = some (tx, id) then s.word? (w.step s).1 else none

/-- What a run says of an identifier in a transaction, in the order of the steps. -/
def words (w : World τ E) (tx : τ) (id : Int) : List (Step τ E) → List (Staged E)
  | [] => []
  | s :: steps => (w.word? tx id s).toList ++ (w.step s).2.words tx id steps

/-- A run that does not end a transaction. -/
def StaysOpen (w : World τ E) (tx : τ) : List (Step τ E) → Prop
  | [] => True
  | s :: steps => s.KeepsOpen tx (w.step s).1 ∧ (w.step s).2.StaysOpen tx steps

end World

/-- How a transaction stands to an identifier. -/
inductive Standing where
  /-- It has said nothing, or taken back all that it had inserted. -/
  | blank
  /-- It has inserted an entity. -/
  | own
  /-- It has changed what others had committed. -/
  | others
deriving DecidableEq

namespace Standing

/-- How a transaction stands to an identifier behind one more word. -/
def next : Standing → Staged E → Standing
  | .blank, .insert _ => .own
  | .blank, _ => .others
  | .own, .delete => .blank
  | .own, _ => .own
  | .others, _ => .others

def of (words : List (Staged E)) : Standing := words.foldl next .blank

theorem of_concat (words : List (Staged E)) (word : Staged E) :
    of (words ++ [word]) = (of words).next word := by
  simp only [of, List.foldl_append, List.foldl_cons, List.foldl_nil]

end Standing

/-- What is staged under an identifier agrees with the words said of it: nothing is staged while the
transaction stands blank, an insert of the last entity while it has one of its own, and another
change with the value of the last word once it has changed what others had committed. -/
def Backs (words : List (Staged E)) (staged : Option (Staged E)) : Prop :=
  match Standing.of words with
  | .blank => staged = none
  | .own => ∃ e, staged = some (.insert e) ∧ words.getLast?.map Staged.value? = some (some e)
  | .others => ∃ change, staged = some change ∧ (∀ e, change ≠ .insert e) ∧
      words.getLast?.map Staged.value? = some change.value?

/-- **One word**, if entities are inserted only where nothing of the transaction stands. -/
theorem Backs.next {words : List (Staged E)} {staged : Option (Staged E)} {word : Staged E}
    (h : Backs words staged)
    (hfree : ∀ e, word = .insert e → staged = none ∨ staged = some .delete) :
    Backs (words ++ [word]) (Staged.next? staged word) := by
  have hlast : (words ++ [word]).getLast?.map Staged.value? = some word.value? := by simp
  unfold Backs at h ⊢
  rw [Standing.of_concat, hlast]
  cases hstanding : Standing.of words with
  | blank =>
    simp only [hstanding] at h
    subst h
    cases word with
    | insert e => exact ⟨e, rfl, rfl⟩
    | update e => exact ⟨.update e, rfl, nofun, rfl⟩
    | delete => exact ⟨.delete, rfl, nofun, rfl⟩
  | own =>
    simp only [hstanding] at h
    obtain ⟨held, rfl, -⟩ := h
    cases word with
    | insert e => rcases hfree e rfl with h | h <;> cases h
    | update e => exact ⟨e, rfl, rfl⟩
    | delete => rfl
  | others =>
    simp only [hstanding] at h
    obtain ⟨change, rfl, hchange, -⟩ := h
    cases change with
    | insert held => exact absurd rfl (hchange held)
    | update held =>
      cases word with
      | insert e => rcases hfree e rfl with h | h <;> cases h
      | update e => exact ⟨.update e, rfl, nofun, rfl⟩
      | delete => exact ⟨.delete, rfl, nofun, rfl⟩
    | delete =>
      cases word with
      | insert e => exact ⟨.update e, rfl, nofun, rfl⟩
      | update e => exact ⟨.update e, rfl, nofun, rfl⟩
      | delete => exact ⟨.delete, rfl, nofun, rfl⟩

theorem Backs.unstaged_of_blank {words : List (Staged E)} {staged : Option (Staged E)}
    (h : Backs words staged) (hblank : Standing.of words = .blank) : staged = none := by
  unfold Backs at h
  rw [hblank] at h
  exact h

/-- What is staged has the value of the last word. -/
theorem Backs.staged_of_ne_blank {words : List (Staged E)} {staged : Option (Staged E)}
    (h : Backs words staged) (hblank : Standing.of words ≠ .blank) :
    ∃ change, staged = some change ∧
      words.getLast?.map Staged.value? = some change.value? := by
  unfold Backs at h
  cases hstanding : Standing.of words with
  | blank => exact absurd hstanding hblank
  | own =>
    rw [hstanding] at h
    obtain ⟨e, hstaged, hlast⟩ := h
    exact ⟨.insert e, hstaged, hlast⟩
  | others =>
    rw [hstanding] at h
    obtain ⟨change, hstaged, -, hlast⟩ := h
    exact ⟨change, hstaged, hlast⟩

/-- A removal stays staged only where a transaction has changed what others had committed. -/
theorem Backs.others_of_delete {words : List (Staged E)} {staged : Option (Staged E)}
    (h : Backs words staged) (hstaged : staged = some .delete) :
    Standing.of words = .others := by
  subst hstaged
  unfold Backs at h
  cases hstanding : Standing.of words with
  | blank =>
    rw [hstanding] at h
    cases h
  | own =>
    rw [hstanding] at h
    obtain ⟨e, he, -⟩ := h
    cases he
  | others => rfl

/-- A transaction that has changed what others had committed goes on to stand so. -/
theorem Standing.of_append_of_others {early : List (Staged E)} (h : of early = .others)
    (late : List (Staged E)) : of (early ++ late) = .others := by
  have hothers : ∀ words : List (Staged E), words.foldl next .others = .others := by
    intro words
    induction words with
    | nil => rfl
    | cons word words ih => exact ih
  rw [of, List.foldl_append, ← of, h, hothers]

/-- A transaction whose last word is an entity has one of its own or has changed what others had
committed. -/
theorem Standing.of_ne_blank {words : List (Staged E)} {word : Staged E}
    (h : words.getLast? = some word) (hword : word ≠ .delete) : of words ≠ .blank := by
  obtain ⟨early, rfl⟩ := List.getLast?_eq_some_iff.mp h
  rw [of_concat]
  cases word with
  | insert e => cases of early <;> exact nofun
  | update e => cases of early <;> exact nofun
  | delete => exact absurd rfl hword

/-- A removal leaves a transaction without an entity of its own. -/
theorem Standing.of_ne_own {words : List (Staged E)} (h : words.getLast? = some .delete) :
    of words ≠ .own := by
  obtain ⟨early, rfl⟩ := List.getLast?_eq_some_iff.mp h
  rw [of_concat]
  cases of early <;> exact nofun

/-! ## What a run stages -/

namespace World

variable [DecidableEq τ] [Entity E] {w : World τ E} {tx other : τ}

/-- What a transaction has staged under an identifier moves on with the word of a step, and only
where the transaction sees nothing does the step insert an entity. -/
structure Records (w : World τ E) (tx : τ) (id : Int) (s : Step τ E) : Prop where
  entry : ((w.step s).2.writes tx)[id]? =
    (w.word? tx id s).elim (w.writes tx)[id]? (Staged.next? (w.writes tx)[id]?)
  free : ∀ e, w.word? tx id s = some (.insert e) → (w.session tx).visible id = false

theorem records_of_silence {s : Step τ E} {id : Int} (hword : w.word? tx id s = none)
    (hentry : ((w.step s).2.writes tx)[id]? = (w.writes tx)[id]?) : w.Records tx id s where
  entry := by rw [hword, hentry, Option.elim]
  free e he := by rw [hword] at he; cases he

/-- A change, of the transaction itself or of another one, that does not go through or says its
word. -/
theorem records_of_change {s : Step τ E} {place : Int} {x : Session E}
    (habout : s.about? w.store = some (other, place)) (hstep : (w.step s).2 = w.resume other x)
    (hchange : (s.word? (w.step s).1 = none ∧ x.writes = w.writes other) ∨
      ∃ word, s.word? (w.step s).1 = some word ∧
        (∀ id : Int, x.writes[id]? =
          if id = place then Staged.next? (w.writes other)[place]? word else (w.writes other)[id]?) ∧
        ∀ e, word = .insert e → (w.session other).visible place = false) (tx : τ) (id : Int) :
    w.Records tx id s := by
  by_cases hsame : other = tx ∧ place = id
  · obtain ⟨rfl, rfl⟩ := hsame
    have hsaid : w.word? other place s = s.word? (w.step s).1 := by rw [word?, if_pos habout]
    rcases hchange with ⟨hword, hwrites⟩ | ⟨word, hword, hwrites, hfree⟩
    · refine records_of_silence (hsaid.trans hword) ?_
      rw [hstep, resume_writes_self, hwrites]
    · rw [hword] at hsaid
      constructor
      · rw [hstep, resume_writes_self, hwrites, if_pos rfl, hsaid, Option.elim]
      · intro e he
        rw [hsaid] at he
        exact hfree e (Option.some.inj he)
  · have hsaid : w.word? tx id s = none := by
      refine if_neg fun hsays => hsame ?_
      rw [habout] at hsays
      exact Prod.mk.inj (Option.some.inj hsays)
    refine records_of_silence hsaid ?_
    rw [hstep]
    by_cases ho : other = tx
    · subst ho
      rw [resume_writes_self]
      rcases hchange with ⟨-, hwrites⟩ | ⟨word, -, hwrites, -⟩
      · rw [hwrites]
      · have hid : id ≠ place := fun hid => hsame ⟨rfl, hid.symm⟩
        rw [hwrites, if_neg hid]
    · rw [resume_writes_of_ne w (Ne.symm ho)]

/-- **One step** that keeps the transaction open. -/
theorem records_of_step {s : Step τ E} (hs : s.KeepsOpen tx (w.step s).1) (id : Int) :
    w.Records tx id s := by
  cases s with
  | begin _ | commit _ | rollback _ | release _ | find _ | contains _ | list _ | plant _ =>
    refine records_of_silence rfl ?_
    rw [step_writes_of_silent hs.not_empties not_false]
  | insert other e =>
    refine records_of_change (x := ((w.session other).insert e).2) rfl rfl ?_ tx id
    rw [step, within_eq]
    rcases (w.session other).insert_cases e with ⟨failure, hfailed, hwrites⟩ | ⟨hok, hfree, hwrites⟩
    · exact .inl ⟨by rw [hfailed]; rfl, hwrites⟩
    · exact .inr ⟨.insert (w.store.placed e).2, by rw [hok]; rfl, hwrites, fun _ _ => hfree⟩
  | update other e | updatePartial other e =>
    refine records_of_change (x := ((w.session other).update e).2) rfl rfl ?_ tx id
    rw [step, within_eq]
    rcases (w.session other).update_cases e with ⟨failure, hfailed, hwrites⟩ | ⟨hok, -, hwrites⟩
    · exact .inl ⟨by rw [hfailed]; rfl, hwrites⟩
    · refine .inr ⟨.update e, by rw [hok]; rfl, hwrites, ?_⟩
      intro inserted hword
      cases hword
  | delete other place =>
    refine records_of_change (x := ((w.session other).delete place).2) rfl rfl ?_ tx id
    rw [step, within_eq]
    rcases (w.session other).delete_cases place with ⟨hvoid, hwrites⟩ | ⟨hok, -, hwrites⟩
    · refine .inl ⟨?_, hwrites⟩
      revert hvoid
      cases ((w.session other).delete place).1 with
      | error failure => exact fun _ => rfl
      | ok yes => cases yes <;> simp [Answer.ofResult, Step.word?]
    · refine .inr ⟨.delete, by rw [hok]; rfl, hwrites, ?_⟩
      intro inserted hword
      cases hword

/-- What is staged under an identifier agrees with the words of the run, by induction on it. -/
theorem backs_run {id : Int} {said : List (Staged E)} (h : Backs said (w.writes tx)[id]?)
    {steps : List (Step τ E)} (hopen : w.StaysOpen tx steps) :
    Backs (said ++ w.words tx id steps) ((w.run steps).2.writes tx)[id]? := by
  induction steps generalizing w said with
  | nil =>
    rw [words, List.append_nil]
    exact h
  | cons s steps ih =>
    obtain ⟨hentry, hfree⟩ := records_of_step hopen.1 id
    rw [words, run_cons]
    cases hword : w.word? tx id s with
    | none =>
      rw [hword] at hentry
      exact ih (hentry ▸ h) hopen.2
    | some word =>
      rw [hword] at hentry
      rw [Option.toList, ← List.append_assoc]
      refine ih ?_ hopen.2
      rw [hentry]
      refine h.next fun e he => ?_
      rcases Session.staged_of_not_visible (hfree e (he ▸ hword)) with ⟨hnone, -⟩ | hdelete
      · exact .inl hnone
      · exact .inr hdelete

theorem backs_run_of_empty {id : Int} (hwrites : w.writes tx = ∅) {steps : List (Step τ E)}
    (hopen : w.StaysOpen tx steps) :
    Backs (w.words tx id steps) ((w.run steps).2.writes tx)[id]? := by
  have hempty : Backs [] (w.writes tx)[id]? := by
    rw [hwrites]
    exact Std.ExtTreeMap.getElem?_empty
  exact backs_run hempty hopen

theorem words_append (w : World τ E) (tx : τ) (id : Int) (early late : List (Step τ E)) :
    w.words tx id (early ++ late) = w.words tx id early ++ (w.run early).2.words tx id late := by
  induction early generalizing w with
  | nil => rfl
  | cons s early ih => rw [List.cons_append, words, words, ih, List.append_assoc, run_cons]

theorem staysOpen_append {early late : List (Step τ E)} :
    w.StaysOpen tx (early ++ late) ↔
      w.StaysOpen tx early ∧ (w.run early).2.StaysOpen tx late := by
  induction early generalizing w with
  | nil => exact ⟨fun h => ⟨trivial, h⟩, And.right⟩
  | cons s early ih => rw [List.cons_append, StaysOpen, StaysOpen, ih, and_assoc, run_cons]

/-- A transaction that only ever dealt with entities of its own has found the identifier free when
it inserted one, and so it stays until somebody commits a write of it. -/
theorem get?_of_own {id : Int} {front back : List (Step τ E)} {e saved : E}
    (hwrites : w.writes tx = ∅) (hopen : w.StaysOpen tx (front ++ .insert tx e :: back))
    (hown : Standing.of (w.words tx id (front ++ .insert tx e :: back)) ≠ .others)
    (hinsert : (w.run front).2.word? tx id (.insert tx e) = some (.insert saved))
    (hquiet : ∀ layer ∈ ((w.run front).2.step (.insert tx e)).2.publications back,
      layer[id]? = none) :
    (w.run (front ++ .insert tx e :: back)).2.store.get? id = none := by
  obtain ⟨hfront, hrest⟩ := staysOpen_append.mp hopen
  have hbacks : Backs (w.words tx id front) ((w.run front).2.writes tx)[id]? :=
    backs_run_of_empty hwrites hfront
  have hstanding : Standing.of (w.words tx id front) ≠ .others := by
    intro hothers
    rw [words_append] at hown
    exact hown (Standing.of_append_of_others hothers _)
  -- The transaction saw nothing under the identifier, and had not removed anything there.
  have hfree : (w.run front).2.store.get? id = none := by
    have hvisible := (records_of_step hrest.1 id).free saved hinsert
    rcases Session.staged_of_not_visible hvisible with ⟨-, hnone⟩ | hdelete
    · exact hnone
    · exact absurd (hbacks.others_of_delete hdelete) hstanding
  have hinserted : ((w.run front).2.step (.insert tx e)).2.store.get? id = none := by
    rw [Store.get?, step_keeps_entities _ fun other he => by cases he]
    exact hfree
  rw [run_append, run_cons, run_get?, foldl_overlay_of_unstaged hquiet]
  exact hinserted

/-- **The last word of a transaction** is what its commit, if it succeeds, leaves under an
identifier, whatever other transactions do between its steps:

* an entity that was inserted or put there last stands there;
* if a removal came last, nothing stands there once the transaction has changed what others had
  committed;
* if a removal came last and the transaction has only taken back what it had inserted itself, the
  commit leaves the identifier as it was: free, unless another commit has written there since the
  insert. -/
theorem commit_publishes_last_word (w : World τ E) (tx : τ) {steps : List (Step τ E)}
    (hbegun : (w.step (.begin tx)).1 = .done)
    (hopen : (w.step (.begin tx)).2.StaysOpen tx steps)
    (hdone : (((w.step (.begin tx)).2.run steps).2.step (.commit tx)).1 = .done) (id : Int) :
    let opened := (w.step (.begin tx)).2
    let v := (opened.run steps).2
    let after := (v.step (.commit tx)).2.store
    let words := opened.words tx id steps
    (∀ e, words.getLast? = some (.insert e) ∨ words.getLast? = some (.update e) →
        after.get? id = some e) ∧
      (words.getLast? = some .delete → Standing.of words = .others → after.get? id = none) ∧
      (words.getLast? = some .delete → Standing.of words ≠ .others →
        after.get? id = v.store.get? id ∧
          ∀ front e saved back, steps = front ++ .insert tx e :: back →
            (opened.run front).2.word? tx id (.insert tx e) = some (.insert saved) →
            (∀ layer ∈ ((opened.run front).2.step (.insert tx e)).2.publications back,
              layer[id]? = none) →
            after.get? id = none) := by
  intro opened v after words
  have hwrites : opened.writes tx = ∅ := step_writes_of_empties ⟨rfl, hbegun⟩
  have hbacks : Backs words (v.writes tx)[id]? := backs_run_of_empty hwrites hopen
  have hafter : after.get? id = overlay v.store.get? (v.writes tx) id := by
    rcases v.step_commit_cases tx with ⟨failure, hfailed, -⟩ | ⟨-, -, hget, -⟩
    · rw [hdone] at hfailed
      cases hfailed
    · exact congrFun hget id
  -- Where something is staged, the commit leaves its value, which is that of the last word.
  have hspoken {word : Staged E} (hlast : words.getLast? = some word)
      (hstanding : Standing.of words ≠ .blank) : after.get? id = word.value? := by
    obtain ⟨change, hstaged, hvalue⟩ := hbacks.staged_of_ne_blank hstanding
    rw [hlast] at hvalue
    rw [hafter, overlay_of_staged hstaged]
    exact (Option.some.inj hvalue).symm
  refine ⟨?_, ?_, ?_⟩
  · rintro e (hlast | hlast)
    · exact hspoken hlast (Standing.of_ne_blank hlast nofun)
    · exact hspoken hlast (Standing.of_ne_blank hlast nofun)
  · intro hlast hothers
    exact hspoken hlast (by rw [hothers]; exact nofun)
  · intro hlast hown
    have hblank : Standing.of words = .blank := by
      have hne := Standing.of_ne_own hlast
      cases hstanding : Standing.of words with
      | blank => rfl
      | own => exact absurd hstanding hne
      | others => exact absurd hstanding hown
    have hkept : after.get? id = v.store.get? id := by
      rw [hafter, overlay_of_unstaged (hbacks.unstaged_of_blank hblank)]
    refine ⟨hkept, ?_⟩
    rintro front e saved back rfl hinsert hquiet
    exact hkept.trans (get?_of_own hwrites hopen hown hinsert hquiet)

/-- A transaction updates an item and removes it, while another one commits an update of the same
item, and it inserts another item. -/
theorem commit_publishes_last_word_stocktaking :
    let w : World Nat Item := ofStore (.ofList [⟨1, "pen", 5, none⟩])
    let steps : List (Step Nat Item) := [.begin 1, .update 0 ⟨1, "nib", 5, none⟩,
      .update 1 ⟨1, "pin", 5, none⟩, .commit 1, .delete 0 1, .insert 0 ⟨0, "cap", 1, none⟩,
      .update 0 ⟨2, "cap", 3, none⟩]
    let opened := (w.step (.begin 0)).2
    let v := (opened.run steps).2
    (w.step (.begin 0)).1 = .done ∧ opened.StaysOpen 0 steps ∧ (v.step (.commit 0)).1 = .done ∧
      v.store.get? 1 = some ⟨1, "pin", 5, none⟩ ∧
      (v.step (.commit 0)).2.store.get? 1 = none ∧
      (v.step (.commit 0)).2.store.get? 2 = some ⟨2, "cap", 3, none⟩ := by
  intro w steps
  have hopen : (w.step (.begin 0)).2.StaysOpen 0 steps := by
    simp [steps, StaysOpen, Step.KeepsOpen]
  have hdone : (((w.step (.begin 0)).2.run steps).2.step (.commit 0)).1 = .done := by
    decide +kernel
  obtain ⟨-, hremoved, -⟩ := commit_publishes_last_word w 0 rfl hopen hdone 1
  obtain ⟨hstored, -⟩ := commit_publishes_last_word w 0 rfl hopen hdone 2
  have hlast : ((w.step (.begin 0)).2.words 0 1 steps).getLast? = some .delete := by
    decide +kernel
  have hothers : Standing.of ((w.step (.begin 0)).2.words 0 1 steps) = .others := by
    decide +kernel
  have hkept : ((w.step (.begin 0)).2.words 0 2 steps).getLast? =
      some (.update ⟨2, "cap", 3, none⟩) := by
    decide +kernel
  exact ⟨rfl, hopen, hdone, by decide +kernel, hremoved hlast hothers, hstored _ (.inr hkept)⟩

/-- A transaction removes last what it has itself inserted, and goes through. Another one has
inserted and committed an item under the same identifier in between, and that item stands. -/
theorem last_removal_leaves_item :
    let w : World Nat Item := ofStore (.ofList [])
    let steps : List (Step Nat Item) := [.begin 1, .insert 0 ⟨7, "cap", 1, none⟩,
      .insert 1 ⟨7, "cup", 2, none⟩, .commit 1, .delete 0 7]
    let opened := (w.step (.begin 0)).2
    let v := (opened.run steps).2
    (w.step (.begin 0)).1 = .done ∧ opened.StaysOpen 0 steps ∧ (v.step (.commit 0)).1 = .done ∧
      (opened.words 0 7 steps).getLast? = some .delete ∧
      (v.step (.commit 0)).2.store.get? 7 = some ⟨7, "cup", 2, none⟩ := by
  intro w steps opened v
  have hopen : opened.StaysOpen 0 steps := by
    simp [steps, StaysOpen, Step.KeepsOpen]
  exact ⟨rfl, hopen, by decide +kernel, by decide +kernel, by decide +kernel⟩

end World

end ResourceApi
