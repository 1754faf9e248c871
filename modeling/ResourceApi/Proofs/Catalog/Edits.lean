import ResourceApi.Proofs.Catalog.Library
import ResourceApi.Proofs.Service.Races
import ResourceApi.Proofs.Store.History

/-!
# Two edits of one book

Two requests give parts of one book other values, next to each other on one store. Each of them
looks the book up before it opens its transaction and writes the whole merged book back, so all that
its calls amount to is one reading and one writing: a book is changed between the two of them
unnoticed.

## Main definitions

- `Desk`, `Desk.after` — the book, and what each editor has read, behind given calls
- `Race.edits` — the race of two edits

## Main results

- `Race.Tracks.turn`, `Race.tracks_edits` — behind every schedule the store holds the
  book of the desk
- `Race.edits_settle` — what is left of two edits
-/

namespace ResourceApi

/-! ## The desk -/

/-- A book, and what each of two editors has read of it. -/
structure Desk where
  book : Book
  /-- The book as each editor has read it. -/
  read : Bool → Book

namespace Desk

variable (drafts : Bool → Book.Draft)

/-- The desk behind a call: a look-up reads the book, a commit writes what was read with the parts
of the editor's draft, and no other call does anything. -/
def follow (desk : Desk) : Bool × Call Book → Desk
  | (who, .findById _) =>
    { desk with read := fun other => if other = who then desk.book else desk.read other }
  -- Whatever stands there by then is not looked at.
  | (who, .commit) => { desk with book := (desk.read who).merge (drafts who) }
  | _ => desk

def after (b : Book) (calls : List (Bool × Call Book)) : Desk :=
  calls.foldl (follow drafts) ⟨b, fun _ => b⟩

variable {drafts}

theorem after_append (b : Book) (calls : List (Bool × Call Book)) (call : Bool × Call Book) :
    after drafts b (calls ++ [call]) = (after drafts b calls).follow drafts call := by
  rw [after, List.foldl_append]
  rfl

theorem id_after (b : Book) (calls : List (Bool × Call Book)) :
    (after drafts b calls).book.id = b.id ∧ ∀ who, ((after drafts b calls).read who).id = b.id := by
  suffices h : ∀ desk : Desk, (desk.book.id = b.id ∧ ∀ who, (desk.read who).id = b.id) →
      (calls.foldl (follow drafts) desk).book.id = b.id ∧
        ∀ who, ((calls.foldl (follow drafts) desk).read who).id = b.id by
    exact h _ ⟨rfl, fun _ => rfl⟩
  -- By induction on the calls, from any desk whose books have the identifier of the first one.
  induction calls with
  | nil => exact fun desk h => h
  | cons call calls ih =>
    rintro desk ⟨hbook, hread⟩
    refine ih _ ?_
    obtain ⟨who, call⟩ := call
    cases call with
    | findById id =>
      refine ⟨hbook, fun other => ?_⟩
      simp only [follow]
      split
      · exact hbook
      · exact hread other
    | commit => exact ⟨hread who, hread⟩
    | _ => exact ⟨hbook, hread⟩

theorem read_follow_of_ne (desk : Desk) {who other : Bool} (h : other ≠ who) (call : Call Book) :
    (desk.follow drafts (who, call)).read other = desk.read other := by
  cases call with
  | findById id => exact if_neg h
  | _ => rfl

/-- Whether a call does anything to the desk. -/
def counts (call : Bool × Call Book) : Bool :=
  match call.2 with
  | .findById _ | .commit => true
  | _ => false

theorem after_filter (b : Book) (calls : List (Bool × Call Book)) :
    after drafts b (calls.filter counts) = after drafts b calls := by
  have hskip : (fun desk call => if counts call = true then follow drafts desk call else desk) =
      follow drafts := by
    funext desk ⟨who, call⟩
    cases call <;> rfl
  rw [after, List.foldl_filter, hskip]
  rfl

end Desk

/-! ## The race -/

namespace Race

open Script (Converses)

/-- Two requests that give parts of one book other values. -/
def edits (options : Options) (store : Store Book) (id : Int) (bodies : Bool → Bytes) :
    Race Bool Book (Except Problem Grant) where
  world := .ofStore store
  scripts who := (library options).handle (.updatePartial id (bodies who))
  calls := []

/-- How far an edit has come with `n` turns: which of its conversation is left, which calls it has
made, and what its transaction holds. Until it has looked the book up, it may find any book. -/
structure Runs (r : Race Bool Book (Except Problem Grant)) (id : Int) (draft : Book.Draft)
    (read : Book) (who : Bool) (n : Nat) : Prop where
  script : ∀ found, (0 < n → found = read) →
    Converses (r.scripts who) ((Service.editing id found (found.merge draft)).drop n)
      (.ok (.ok .noContent))
  calls : callsOf who r.calls =
    ((Service.editing id read (read.merge draft)).take n).map fun e => (who, e.call)
  opened : n = 2 → r.world.writes who = ∅
  staged : n = 3 →
    r.world.writes who = (∅ : WriteSet Book).insert id (.update (read.merge draft))

/-- The store holds the book of the desk, and both edits have come as far as they have had turns. -/
structure Tracks (r : Race Bool Book (Except Problem Grant)) (store : Store Book) (id : Int)
    (b : Book) (drafts : Bool → Book.Draft) (turns : Bool → Nat) : Prop where
  quiet : r.world.store.faults = Faults.none
  book : r.world.store.get? id = some (Desk.after drafts b r.calls).book
  others : ∀ other, other ≠ id → r.world.store.get? other = store.get? other
  runs : ∀ who,
    r.Runs id (drafts who) ((Desk.after drafts b r.calls).read who) who (turns who)

variable {r : Race Bool Book (Except Problem Grant)} {store : Store Book} {id : Int} {b : Book}
  {drafts : Bool → Book.Draft} {turns : Bool → Nat}

theorem Runs.bystander {draft : Book.Draft} {read : Book} {who other : Bool} {n : Nat}
    (h : r.Runs id draft read other n) (hne : other ≠ who) (call : Call Book)
    (rest : Script Book (Except Problem Grant)) (x : Session Book) :
    (r.resume who call rest x).Runs id draft read other n where
  script := by
    rw [resume_scripts_of_ne hne]
    exact h.script
  calls := by
    rw [resume_calls, callsOf_append, callsOf_cons_of_ne hne.symm]
    exact (List.append_nil _).trans h.calls
  opened := by
    rw [resume_writes_of_ne hne]
    exact h.opened
  staged := by
    rw [resume_writes_of_ne hne]
    exact h.staged

/-- An edit after its own turn. With its first turn it reads a book; after that it has read the same
book as before. -/
theorem Runs.next {draft : Book.Draft} {read read' : Book} {who : Bool} {n : Nat}
    (h : r.Runs id draft read who n) (hread : 0 < n → read' = read) {call : Call Book}
    {reply : Reply call.Result} {rest : Script Book (Except Problem Grant)} {x : Session Book}
    (hcall : (Service.editing id read' (read'.merge draft))[n]? = some ⟨call, reply⟩)
    (hrest : Converses rest ((Service.editing id read' (read'.merge draft)).drop (n + 1))
      (.ok (.ok .noContent)))
    (hopened : n = 1 → x.writes = ∅)
    (hstaged : n = 2 → x.writes = (∅ : WriteSet Book).insert id (.update (read'.merge draft))) :
    (r.resume who call rest x).Runs id draft read' who (n + 1) where
  script := by
    intro found hfound
    rw [hfound (Nat.succ_pos n), resume_scripts_self]
    exact hrest
  calls := by
    have hmade : callsOf who r.calls =
        ((Service.editing id read' (read'.merge draft)).take n).map fun e => (who, e.call) := by
      rw [h.calls]
      -- Before the first turn no call is made, so it does not matter which book is read with it.
      cases n with
      | zero => rfl
      | succ n => rw [hread (Nat.succ_pos n)]
    rw [resume_calls, callsOf_append, callsOf_cons_self, hmade, List.take_add_one, hcall,
      List.map_append]
    rfl
  opened := fun hn => (World.resume_writes_self ..).trans (hopened (Nat.succ.inj hn))
  staged := fun hn => (World.resume_writes_self ..).trans (hstaged (Nat.succ.inj hn))

theorem Runs.idle {draft : Book.Draft} {read : Book} {who : Bool} {n : Nat}
    (h : r.Runs id draft read who n) (hn : 5 ≤ n) : r.Runs id draft read who (n + 1) where
  script := by
    intro found _
    have hover := h.script read fun _ => rfl
    rw [List.drop_of_length_le hn] at hover
    rw [List.drop_of_length_le (Nat.le_succ_of_le hn)]
    exact hover
  calls := by
    rw [h.calls, List.take_of_length_le hn, List.take_of_length_le (Nat.le_succ_of_le hn)]
  opened := by omega
  staged := by omega

/-- What a call has to leave behind, so that the race is tracked on. -/
theorem Tracks.resume (h : r.Tracks store id b drafts turns) {who : Bool} {call : Call Book}
    {rest : Script Book (Except Problem Grant)} {x : Session Book}
    (hquiet : x.store.faults = Faults.none)
    (hbook : x.store.get? id =
      some ((Desk.after drafts b r.calls).follow drafts (who, call)).book)
    (hothers : ∀ other, other ≠ id → x.store.get? other = r.world.store.get? other)
    (hruns : (r.resume who call rest x).Runs id (drafts who)
      (((Desk.after drafts b r.calls).follow drafts (who, call)).read who) who (turns who + 1)) :
    (r.resume who call rest x).Tracks store id b drafts (tick turns who) where
  quiet := hquiet
  book := by
    rw [resume_calls, Desk.after_append]
    exact hbook
  others := fun other hother => (hothers other hother).trans (h.others other hother)
  runs := by
    intro other
    rw [resume_calls, Desk.after_append]
    by_cases hother : other = who
    · subst hother
      rw [tick, if_pos rfl]
      exact hruns
    · rw [tick, if_neg hother, Desk.read_follow_of_ne _ hother]
      exact (h.runs other).bystander hother call rest x

section Turns

variable {who : Bool} (h : r.Tracks store id b drafts turns)
include h

theorem Tracks.turn_look (hn : turns who = 0) :
    (r.turn who).Tracks store id b drafts (tick turns who) := by
  have hrun := h.runs who
  rw [hn] at hrun
  have hanswer : Session.answer (.findById id) (r.world.session who) =
      (.returned (r.world.store.get? id), r.world.session who) :=
    Session.answer_findById_of_quiet h.quiet id
  rw [h.book] at hanswer
  -- Nothing has been read so far, so the conversation is the one about the book that is found.
  obtain ⟨rest, hturn, hrest⟩ := turn_of_converses (hrun.script _ (by simp)) hanswer
  have hread : ((Desk.after drafts b r.calls).follow drafts (who, .findById id)).read who =
      (Desk.after drafts b r.calls).book := if_pos rfl
  rw [hturn]
  refine h.resume h.quiet h.book (fun _ _ => rfl) ?_
  rw [hread, hn]
  exact hrun.next (by simp) rfl hrest (by simp) (by simp)

theorem Tracks.turn_begin (hn : turns who = 1) :
    (r.turn who).Tracks store id b drafts (tick turns who) := by
  have hrun := h.runs who
  rw [hn] at hrun
  have hfault : (r.world.session who).store.faults.begin = none :=
    congrArg Faults.begin h.quiet
  have hanswer := Session.answer_begin_of_faultless hfault
  rw [Session.begin_of_faultless hfault] at hanswer
  obtain ⟨rest, hturn, hrest⟩ := turn_of_converses (hrun.script _ fun _ => rfl) hanswer
  rw [hturn]
  refine h.resume h.quiet h.book (fun _ _ => rfl) ?_
  rw [hn]
  exact hrun.next (fun _ => rfl) rfl hrest (fun _ => rfl) (by simp)

theorem Tracks.turn_stage (hid : b.id = id) (hn : turns who = 2) :
    (r.turn who).Tracks store id b drafts (tick turns who) := by
  have hrun := h.runs who
  rw [hn] at hrun
  have hentity : Entity.id (((Desk.after drafts b r.calls).read who).merge (drafts who)) = id :=
    ((Desk.id_after b r.calls).2 who).trans hid
  have htaken : (r.world.session who).store.entities.contains
      (Entity.id (((Desk.after drafts b r.calls).read who).merge (drafts who))) = true := by
    rw [hentity, Store.contains_entities]
    exact Option.isSome_of_eq_some h.book
  have hanswer := Session.answer_updatePartial_of_quiet h.quiet (hrun.opened rfl) htaken
  rw [hentity] at hanswer
  obtain ⟨rest, hturn, hrest⟩ := turn_of_converses (hrun.script _ fun _ => rfl) hanswer
  rw [hturn]
  refine h.resume h.quiet h.book (fun _ _ => rfl) ?_
  rw [hn]
  exact hrun.next (fun _ => rfl) rfl hrest (by simp) (fun _ => rfl)

theorem Tracks.turn_commit (hn : turns who = 3) :
    (r.turn who).Tracks store id b drafts (tick turns who) := by
  have hrun := h.runs who
  rw [hn] at hrun
  have hfault : (r.world.session who).store.faults.commit = none :=
    congrArg Faults.commit h.quiet
  -- The check before a commit asks whether there is a book, not whether it is the one that was read.
  have hagrees : (r.world.session who).store.contradicts id
      (.update (((Desk.after drafts b r.calls).read who).merge (drafts who))) = false := by
    rw [Store.contradicts, Store.contains_entities]
    exact congrArg (fun found => !found) (Option.isSome_of_eq_some h.book)
  have hanswer := Session.answer_commit_single hfault (hrun.staged rfl) hagrees
  obtain ⟨rest, hturn, hrest⟩ := turn_of_converses (hrun.script _ fun _ => rfl) hanswer
  rw [hturn]
  refine h.resume h.quiet ?_ ?_ ?_
  · exact (Store.get?_applyStaged ..).trans (if_pos rfl)
  · intro other hother
    exact (Store.get?_applyStaged ..).trans (if_neg hother)
  · rw [hn]
    exact hrun.next (fun _ => rfl) rfl hrest (by simp) (by simp)

theorem Tracks.turn_release (hn : turns who = 4) :
    (r.turn who).Tracks store id b drafts (tick turns who) := by
  have hrun := h.runs who
  rw [hn] at hrun
  obtain ⟨rest, hturn, hrest⟩ := turn_of_converses (hrun.script _ fun _ => rfl) rfl
  rw [hturn]
  refine h.resume h.quiet h.book (fun _ _ => rfl) ?_
  rw [hn]
  exact hrun.next (fun _ => rfl) rfl hrest (by simp) (by simp)

theorem Tracks.turn_idle (hn : 5 ≤ turns who) :
    (r.turn who).Tracks store id b drafts (tick turns who) := by
  have hrun := h.runs who
  have hover := hrun.script _ fun _ => rfl
  rw [List.drop_of_length_le hn] at hover
  rw [turn_of_over hover]
  refine ⟨h.quiet, h.book, h.others, fun other => ?_⟩
  by_cases hother : other = who
  · subst hother
    rw [tick, if_pos rfl]
    exact hrun.idle hn
  · rw [tick, if_neg hother]
    exact h.runs other

end Turns

/-- **One turn**: whatever call an edit makes next, the store holds the book of the desk behind it.
An edit makes five calls; after that, its turns are left unused. -/
theorem Tracks.turn (h : r.Tracks store id b drafts turns) (hid : b.id = id) (who : Bool) :
    (r.turn who).Tracks store id b drafts (tick turns who) := by
  have hturns : turns who = 0 ∨ turns who = 1 ∨ turns who = 2 ∨ turns who = 3 ∨ turns who = 4 ∨
      5 ≤ turns who := by omega
  rcases hturns with hn | hn | hn | hn | hn | hn
  · exact h.turn_look hn
  · exact h.turn_begin hn
  · exact h.turn_stage hid hn
  · exact h.turn_commit hn
  · exact h.turn_release hn
  · exact h.turn_idle hn

theorem Tracks.run (h : r.Tracks store id b drafts turns) (hid : b.id = id)
    (schedule : List Bool) :
    (r.run schedule).Tracks store id b drafts fun who => turns who + schedule.count who :=
  run_keeps (P := fun r turns => r.Tracks store id b drafts turns) (fun h who => h.turn hid who) h
    schedule

/-- The draft in a body that is accepted keeps the rules and claims no other identifier. -/
theorem converses_edit (options : Options) {body : Bytes} {draft : Book.Draft} (hpos : 0 < id)
    (hbody : Shelf.acceptedFor Book.checkParts id body = some draft) (found : Book) :
    Converses ((library options).handle (.updatePartial id body))
      (Service.editing id found (found.merge draft)) (.ok (.ok .noContent)) := by
  obtain ⟨haccepted, hclaimed⟩ := Option.filter_eq_some_iff.mp hbody
  obtain ⟨hread, hkept⟩ := Option.filter_eq_some_iff.mp haccepted
  have hrules : Book.checkParts draft = .ok () := by
    cases hverdict : Book.checkParts draft with
    | ok _ => rfl
    | error violations =>
      rw [hverdict] at hkept
      cases hkept
  refine Service.converses_updatePartial _ hpos hread hrules ?_ rfl
  intro claimed hmem
  have hdraft : draft.id = some claimed := hmem
  simpa [hdraft] using hclaimed

/-- Before the first turn nothing has been read. -/
theorem tracks_edits (options : Options) {bodies : Bool → Bytes} (hquiet : store.faults = Faults.none)
    (hpos : 0 < id) (hb : store.get? id = some b)
    (hbodies : ∀ who, Shelf.acceptedFor Book.checkParts id (bodies who) = some (drafts who)) :
    (edits options store id bodies).Tracks store id b drafts fun _ => 0 where
  quiet := hquiet
  book := hb
  others := fun _ _ => rfl
  runs := fun who =>
    ⟨fun found _ => converses_edit options hpos (hbodies who) found, rfl, by simp, by simp⟩

/-- An edit is over as soon as it has had five turns, and no earlier. -/
theorem Runs.outcome?_iff {draft : Book.Draft} {read : Book} {who : Bool} {n : Nat}
    (h : r.Runs id draft read who n) :
    r.outcome? who = some (.ok (.ok .noContent)) ↔ 5 ≤ n := by
  have hscript := h.script read fun _ => rfl
  by_cases hn : 5 ≤ n
  · rw [List.drop_of_length_le hn] at hscript
    exact iff_of_true hscript.outcome? hn
  · have hlength : n < (Service.editing id read (read.merge draft)).length := Nat.lt_of_not_le hn
    rw [List.drop_eq_getElem_cons hlength] at hscript
    have hnone : r.outcome? who = none := hscript.outcome?_eq_none
    rw [hnone]
    exact iff_of_false (by simp) hn

/-- Of the calls of an edit that is over, the look-up and the commit count. -/
theorem Runs.counted {draft : Book.Draft} {read : Book} {who : Bool} {n : Nat}
    (h : r.Runs id draft read who n) (hn : 5 ≤ n) :
    callsOf who (r.calls.filter Desk.counts) = [(who, .findById id), (who, .commit)] := by
  have hswap : callsOf who (r.calls.filter Desk.counts) =
      (callsOf who r.calls).filter Desk.counts := by
    rw [callsOf, callsOf, List.filter_filter, List.filter_filter]
    exact List.filter_congr fun call _ => Bool.and_comm ..
  rw [hswap, h.calls, List.take_of_length_le hn]
  rfl

/-- **What is left of two edits** of one book, in whatever order their calls come:

* both are done and answered alike, once they have had their turns, and no other book is touched;
* behind both of them the book has all parts that the later one to commit gives;
* it has the parts of the earlier one too if the later one looked the book up behind that commit,
  and otherwise none of them: the earlier edit is lost. -/
theorem edits_settle (options : Options) {bodies : Bool → Bytes}
    (hquiet : store.faults = Faults.none) (hpos : 0 < id) (hb : store.get? id = some b)
    (hid : b.id = id)
    (hbodies : ∀ who, Shelf.acceptedFor Book.checkParts id (bodies who) = some (drafts who))
    (schedule : List Bool) :
    let r := (edits options store id bodies).run schedule
    (∀ who, r.outcome? who = some (.ok (.ok .noContent)) ↔ 5 ≤ schedule.count who) ∧
      (∀ other, other ≠ id → r.world.store.get? other = store.get? other) ∧
      ((∀ who, r.outcome? who = some (.ok (.ok .noContent))) → ∃ last,
        ([(!last, .commit), (last, .findById id), (last, .commit)].Sublist r.calls ∧
            r.world.store.get? id = some ((b.merge (drafts !last)).merge (drafts last))) ∨
          ([(last, .findById id), (!last, .commit), (last, .commit)].Sublist r.calls ∧
            r.world.store.get? id = some (b.merge (drafts last)))) := by
  intro r
  have htracks : r.Tracks store id b drafts fun who => 0 + schedule.count who :=
    (tracks_edits options hquiet hpos hb hbodies).run hid schedule
  simp only [Nat.zero_add] at htracks
  have hover (who : Bool) := (htracks.runs who).outcome?_iff
  refine ⟨hover, htracks.others, fun hdone => ?_⟩
  have hmade : r.world.store.get? id =
      some (Desk.after drafts b (r.calls.filter Desk.counts)).book := by
    rw [Desk.after_filter]
    exact htracks.book
  have hcounted : (r.calls.filter Desk.counts).Sublist r.calls := List.filter_sublist
  -- Two look-ups and two commits, each behind its own look-up, leave three orders.
  obtain ⟨who, horder⟩ := orders fun who => (htracks.runs who).counted ((hover who).mp (hdone who))
  rw [hmade]
  rcases horder with horder | horder | horder <;> rw [horder] at hcounted ⊢
  · -- One edit comes behind the other.
    refine ⟨!who, .inl ⟨?_, ?_⟩⟩
    · rw [Bool.not_not]
      exact (List.sublist_cons_self _ _).trans hcounted
    · simp [Desk.after, Desk.follow]
  · -- Both read the first book, and the other one commits last.
    refine ⟨!who, .inr ⟨?_, ?_⟩⟩
    · rw [Bool.not_not]
      exact (List.sublist_cons_self _ _).trans hcounted
    · simp [Desk.after, Desk.follow]
  · -- Both read the first book, and the first one to read it commits last.
    refine ⟨who, .inr ⟨?_, ?_⟩⟩
    · exact ((List.sublist_cons_self _ _).cons_cons _).trans hcounted
    · simp [Desk.after, Desk.follow]

/-- Two bodies: one gives a title, the other one a year. -/
def rivalBodies (who : Bool) : Bytes :=
  Text.utf8 (if who then "\x7b\"year\":1969\x7d" else "\x7b\"title\":\"Ubik\"\x7d")

def rivalDrafts (who : Bool) : Book.Draft :=
  if who then ⟨none, none, none, some 1969, none, none⟩
  else ⟨none, some "Ubik", none, none, none, none⟩

theorem acceptedFor_rivalBodies (who : Bool) :
    Shelf.acceptedFor Book.checkParts 3 (rivalBodies who) = some (rivalDrafts who) := by
  cases who <;> decide +kernel

def rivalBook : Book :=
  ⟨3, "Do Androids Dream of Electric Sheep?", "Philip K. Dick", 1968, none, true⟩

theorem get?_rivalBook : (Store.ofList Book.seed).get? 3 = some rivalBook := by decide +kernel

theorem edits_settle_in_turn :
    let r := (edits .usual (.ofList Book.seed) 3 rivalBodies).run
      (List.replicate 5 false ++ List.replicate 5 true)
    (∀ who, r.outcome? who = some (.ok (.ok .noContent))) ∧ ∃ last,
      ([(!last, .commit), (last, .findById 3), (last, .commit)].Sublist r.calls ∧
          r.world.store.get? 3 =
            some ((rivalBook.merge (rivalDrafts !last)).merge (rivalDrafts last))) ∨
        ([(last, .findById 3), (!last, .commit), (last, .commit)].Sublist r.calls ∧
          r.world.store.get? 3 = some (rivalBook.merge (rivalDrafts last))) := by
  have hquiet : (Store.ofList Book.seed).faults = Faults.none := rfl
  have hturns (who : Bool) :
      5 ≤ (List.replicate 5 false ++ List.replicate 5 true).count who := by
    cases who <;> decide
  obtain ⟨hover, -, hleft⟩ := edits_settle .usual hquiet (by decide) get?_rivalBook rfl
    acceptedFor_rivalBodies (List.replicate 5 false ++ List.replicate 5 true)
  have hdone := fun who => (hover who).mpr (hturns who)
  exact ⟨hdone, hleft hdone⟩

/-- Turn by turn both edits are done, and the title that one of them gives is lost. -/
theorem edits_lose_title :
    let schedule := [false, true, false, true, false, true, false, true, false, true]
    let r := (edits .usual (.ofList Book.seed) 3 rivalBodies).run schedule
    Shelf.acceptedFor Book.checkParts 3 (rivalBodies false) =
        some ⟨none, some "Ubik", none, none, none, none⟩ ∧
      Shelf.acceptedFor Book.checkParts 3 (rivalBodies true) =
        some ⟨none, none, none, some 1969, none, none⟩ ∧
      (∀ who, r.outcome? who = some (.ok (.ok .noContent))) ∧
      r.world.store.get? 3 =
        some ⟨3, "Do Androids Dream of Electric Sheep?", "Philip K. Dick", 1969, none, true⟩ := by
  intro schedule
  have hquiet : (Store.ofList Book.seed).faults = Faults.none := rfl
  have htracks : ((edits .usual (.ofList Book.seed) 3 rivalBodies).run schedule).Tracks
      (.ofList Book.seed) 3 rivalBook rivalDrafts fun who => 0 + schedule.count who :=
    (tracks_edits .usual hquiet (by decide) get?_rivalBook acceptedFor_rivalBodies).run rfl schedule
  have hturns (who : Bool) : 5 ≤ 0 + schedule.count who := by
    cases who <;> decide
  refine ⟨acceptedFor_rivalBodies false, acceptedFor_rivalBodies true,
    fun who => (htracks.runs who).outcome?_iff.mpr (hturns who), ?_⟩
  decide +kernel

end Race

end ResourceApi
