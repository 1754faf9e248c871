import ResourceApi.Proofs.Service.Errands
import ResourceApi.Proofs.Service.Overtaking
import ResourceApi.Proofs.Service.Races
import ResourceApi.Proofs.Store.History

/-!
# Rivals

Two requests that are to change one entity, next to each other on one store. Whatever calls they
have made, the entity is gone exactly if a removal is among the commits, and each of them is on its
errand with as many calls made as it has had turns, or has settled.

## Main definitions

- `Race.Standing` — how far a request has come
- `Race.Accounts` — the calls so far account for the store and for both requests

## Main results

- `Race.Accounts.turn`, `Race.Accounts.run` — every turn keeps the account, and so does a schedule
- `Race.Standing.settles` — a request that is over has settled
- `Race.Standing.over_of_turns` — no request makes more than six calls
-/

namespace ResourceApi

variable {E D : Type}

open Script (Converses)

namespace Race

/-! ## How far a request has come -/

/-- How far a request has come with `n` turns. -/
inductive Standing [Entity E] (s : Service E D) (requests : Bool → Request) (id : Int) (b : E)
    (r : Race Bool E (Except Problem Grant)) (who : Bool)
    (unhindered : Except String (Except Problem Grant)) : Nat → Prop where
  /-- It has not called anything yet. -/
  | fresh (errand : s.Errand (requests who) id b unhindered (r.scripts who))
      (silent : ∀ call, (who, call) ∉ r.calls) :
      Standing s requests id b r who unhindered 0
  /-- It has found the entity and is to change it. -/
  | found {call : Call E} {change : Staged E}
      (alters : (requests who).Alters id call change)
      (plan : Pursues (·.found = some b) unhindered [.begin, call] (r.scripts who))
      (lookups : ¬ Overtaken requests r.calls who Call.isLookup)
      (changes : Awaits r.calls who Call.isChange) (commits : Awaits r.calls who Call.isCommit) :
      Standing s requests id b r who unhindered 1
  /-- It has opened its transaction. -/
  | begun {call : Call E} {change : Staged E}
      (alters : (requests who).Alters id call change)
      (plan : Pursues (·.found = some b) unhindered [call] (r.scripts who))
      (writes : r.world.writes who = ∅)
      (lookups : ¬ Overtaken requests r.calls who Call.isLookup)
      (changes : Awaits r.calls who Call.isChange) (commits : Awaits r.calls who Call.isCommit) :
      Standing s requests id b r who unhindered 2
  /-- It has staged its change. -/
  | staged {call : Call E} {change : Staged E}
      (alters : (requests who).Alters id call change)
      (plan : Pursues (fun sc => sc.found = some b ∧ sc.taken = true) unhindered []
        (r.scripts who))
      (writes : r.world.writes who = (∅ : WriteSet E).insert id change)
      (lookups : ¬ Overtaken requests r.calls who Call.isLookup)
      (changes : ¬ Overtaken requests r.calls who Call.isChange)
      (commits : Awaits r.calls who Call.isCommit) :
      Standing s requests id b r who unhindered 3
  /-- It is settled what it comes to. -/
  | settled {rest : List (Call E)} {outcome : Except String (Except Problem Grant)} {n : Nat}
      (aside : ∀ call ∈ rest, call.isAside = true) (short : rest.length ≤ 6 - n)
      (script : Converses (r.scripts who) (rest.map (Scenario.fair b).exchange) outcome)
      (settles : Settles requests r.calls who unhindered outcome) :
      Standing s requests id b r who unhindered n

/-- The store is as the calls so far have left it, and both requests have come as far as they have
had turns. -/
structure Accounts [Entity E] (s : Service E D) (store : Store E) (requests : Bool → Request)
    (id : Int) (b : E) (unhindered : Bool → Except String (Except Problem Grant))
    (r : Race Bool E (Except Problem Grant)) (turns : Bool → Nat) : Prop where
  quiet : r.world.store.faults = Faults.none
  others : ∀ other, other ≠ id → r.world.store.get? other = store.get? other
  /-- The entity is gone as soon as a removal is committed. -/
  gone : r.world.store.get? id = none ↔
    ∃ who, (requests who).deletes = true ∧ (who, .commit) ∈ r.calls
  /-- Until another change is committed, it is the entity of the beginning. -/
  kept : ∀ e, r.world.store.get? id = some e →
    e = b ∨ ∃ who, (requests who).deletes = false ∧ (who, .commit) ∈ r.calls
  standing : ∀ who, Standing s requests id b r who (unhindered who) (turns who)

section Standing

variable [Entity E] {s : Service E D} {store : Store E} {requests : Bool → Request} {id : Int}
  {b : E} {unhindered : Bool → Except String (Except Problem Grant)}
  {r : Race Bool E (Except Problem Grant)} {turns : Bool → Nat}

/-- A request while the other one has its turn. -/
theorem Standing.bystander {who caller : Bool} {plain : Except String (Except Problem Grant)}
    {n : Nat} (h : Standing s requests id b r who plain n) (hne : who ≠ caller) (call : Call E)
    (rest : Script E (Except Problem Grant)) (x : Session E) :
    Standing s requests id b (r.resume caller call rest x) who plain n := by
  have hcaller : caller ≠ who := hne.symm
  have hscripts : (r.resume caller call rest x).scripts who = r.scripts who :=
    resume_scripts_of_ne hne
  have hwrites : (r.resume caller call rest x).world.writes who = r.world.writes who :=
    resume_writes_of_ne hne
  have hovertaken (kind : Call E → Bool) :
      Overtaken requests (r.resume caller call rest x).calls who kind ↔
        Overtaken requests r.calls who kind :=
    overtaken_concat_of fun h => absurd h hcaller
  have hawaits {kind : Call E → Bool} (h : Awaits r.calls who kind) :
      Awaits (r.resume caller call rest x).calls who kind :=
    h.concat fun h => absurd h hcaller
  cases h with
  | fresh errand silent =>
    rw [← hscripts] at errand
    refine .fresh errand fun made hmade => ?_
    rcases List.mem_append.mp hmade with hmade | hmade
    · exact silent made hmade
    · exact hne (Prod.mk.inj (List.mem_singleton.mp hmade)).1
  | found alters plan lookups changes commits =>
    rw [← hscripts] at plan
    exact .found alters plan (mt (hovertaken _).mp lookups) (hawaits changes) (hawaits commits)
  | begun alters plan writes lookups changes commits =>
    rw [← hscripts] at plan
    exact .begun alters plan (hwrites.trans writes) (mt (hovertaken _).mp lookups)
      (hawaits changes) (hawaits commits)
  | staged alters plan writes lookups changes commits =>
    rw [← hscripts] at plan
    exact .staged alters plan (hwrites.trans writes) (mt (hovertaken _).mp lookups)
      (mt (hovertaken _).mp changes) (hawaits commits)
  | settled aside short script settles =>
    rw [← hscripts] at script
    exact .settled aside short script (settles.concat fun h => absurd h hcaller)

/-- What a call has to leave behind for the account to go on. -/
theorem Accounts.resume (h : Accounts s store requests id b unhindered r turns) {who : Bool}
    {call : Call E} {rest : Script E (Except Problem Grant)} {x : Session E}
    (hquiet : x.store.faults = Faults.none)
    (hothers : ∀ other, other ≠ id → x.store.get? other = r.world.store.get? other)
    (hgone : x.store.get? id = none ↔
      ∃ w, (requests w).deletes = true ∧ (w, .commit) ∈ r.calls ++ [(who, call)])
    (hkept : ∀ e, x.store.get? id = some e →
      e = b ∨ ∃ w, (requests w).deletes = false ∧ (w, .commit) ∈ r.calls ++ [(who, call)])
    (hstanding : Standing s requests id b (r.resume who call rest x) who (unhindered who)
      (turns who + 1)) :
    Accounts s store requests id b unhindered (r.resume who call rest x) (tick turns who) where
  quiet := hquiet
  others := fun other hother => (hothers other hother).trans (h.others other hother)
  gone := hgone
  kept := hkept
  standing := by
    intro other
    by_cases hother : other = who
    · subst hother
      rw [tick, if_pos rfl]
      exact hstanding
    · rw [tick, if_neg hother]
      exact (h.standing other).bystander hother call rest x

/-- A call that is no commit leaves the entities alone. -/
theorem Accounts.resume_of_same (h : Accounts s store requests id b unhindered r turns)
    {who : Bool} {call : Call E} {rest : Script E (Except Problem Grant)} {x : Session E}
    (hcall : call.isCommit = false) (hquiet : x.store.faults = Faults.none)
    (hsame : x.store.entities = r.world.store.entities)
    (hstanding : Standing s requests id b (r.resume who call rest x) who (unhindered who)
      (turns who + 1)) :
    Accounts s store requests id b unhindered (r.resume who call rest x) (tick turns who) := by
  have hget (other : Int) : x.store.get? other = r.world.store.get? other := by
    rw [Store.get?, hsame, Store.get?]
  have hne : call ≠ .commit := by
    rintro rfl
    cases hcall
  refine h.resume hquiet (fun other _ => hget other) ?_ ?_ hstanding
  · simp only [hget, mem_concat_of_ne hne]
    exact h.gone
  · simp only [hget, mem_concat_of_ne hne]
    exact h.kept

/-- A turn that is left unused. -/
theorem Accounts.idle (h : Accounts s store requests id b unhindered r turns) {who : Bool}
    (hstanding : Standing s requests id b r who (unhindered who) (turns who + 1)) :
    Accounts s store requests id b unhindered r (tick turns who) where
  quiet := h.quiet
  others := h.others
  gone := h.gone
  kept := h.kept
  standing := by
    intro other
    by_cases hother : other = who
    · subst hother
      rw [tick, if_pos rfl]
      exact hstanding
    · rw [tick, if_neg hother]
      exact h.standing other

/-- Of two requests, the one that has removed the entity is the other one of a request that has not
committed anything. -/
theorem Accounts.overtaken_of_gone (h : Accounts s store requests id b unhindered r turns)
    {who : Bool} (hcommits : (who, .commit) ∉ r.calls) (hget : r.world.store.get? id = none) :
    (requests !who).deletes = true ∧ (!who, .commit) ∈ r.calls := by
  obtain ⟨w, hdeletes, hcommit⟩ := h.gone.mp hget
  have hne : w ≠ who := by
    rintro rfl
    exact hcommits hcommit
  rw [Bool.eq_not_of_ne hne] at hdeletes hcommit
  exact ⟨hdeletes, hcommit⟩

theorem Accounts.not_overtaken_of_found (h : Accounts s store requests id b unhindered r turns)
    {who : Bool} {e : E} (hget : r.world.store.get? id = some e) :
    ¬ ((requests !who).deletes = true ∧ (!who, .commit) ∈ r.calls) := by
  rintro ⟨hdeletes, hcommit⟩
  have hnone := h.gone.mpr ⟨_, hdeletes, hcommit⟩
  rw [hget] at hnone
  cases hnone

/-! ## One turn -/

theorem answer_aside {call : Call E} (hcall : call.isAside = true) {x : Session E}
    (hquiet : x.store.faults = Faults.none) :
    ∃ y, Session.answer call x = ((Scenario.fair b).reply call, y) ∧
      y.store.faults = Faults.none ∧ y.store.entities = x.store.entities := by
  cases call with
  | begin =>
    have hanswer := Session.answer_begin_of_faultless (congrArg Faults.begin hquiet)
    rw [Session.begin_of_quiet hquiet] at hanswer
    exact ⟨_, hanswer, hquiet, rfl⟩
  | rollback | release => exact ⟨_, rfl, hquiet, rfl⟩
  | _ => cases hcall

theorem Standing.over {who : Bool} {plain outcome : Except String (Except Problem Grant)} {n : Nat}
    (script : Converses (r.scripts who) [] outcome)
    (settles : Settles requests r.calls who plain outcome) :
    Standing s requests id b r who plain n := by
  have hscript : Converses (r.scripts who) (([] : List (Call E)).map (Scenario.fair b).exchange)
      outcome := script
  exact .settled (by simp) (by simp) hscript settles

/-- What is left to do if a change or a commit has failed. -/
theorem Standing.unwinding {who : Bool} {plain outcome : Except String (Except Problem Grant)}
    {n : Nat} (hn : n ≤ 4)
    (script : Converses (r.scripts who) [⟨.rollback, .returned ()⟩, ⟨.release, .returned ()⟩]
      outcome)
    (settles : Settles requests r.calls who plain outcome) :
    Standing s requests id b r who plain n := by
  have hscript : Converses (r.scripts who)
      (([.rollback, .release] : List (Call E)).map (Scenario.fair b).exchange) outcome := script
  refine .settled ?_ ?_ hscript settles
  · simp [Call.isAside, Call.isLookup, Call.isChange, Call.isCommit]
  · simp only [List.length_cons, List.length_nil]
    omega

/-- What is left to do if a commit has gone through. -/
theorem Standing.releasing {who : Bool} {plain outcome : Except String (Except Problem Grant)}
    {n : Nat} (hn : n ≤ 5)
    (script : Converses (r.scripts who) [⟨.release, .returned ()⟩] outcome)
    (settles : Settles requests r.calls who plain outcome) :
    Standing s requests id b r who plain n := by
  have hscript : Converses (r.scripts who)
      (([.release] : List (Call E)).map (Scenario.fair b).exchange) outcome := script
  refine .settled ?_ ?_ hscript settles
  · simp [Call.isAside, Call.isLookup, Call.isChange, Call.isCommit]
  · simp only [List.length_singleton]
    omega

omit [Entity E] in
theorem aside_of_quits {rest : List (Call E)} (h : rest ∈ [[], [.begin, .rollback, .release]]) :
    (∀ call ∈ rest, call.isAside = true) ∧ rest.length ≤ 5 := by
  simp only [List.mem_cons, List.not_mem_nil, or_false] at h
  rcases h with rfl | rfl <;> simp [Call.isAside, Call.isLookup, Call.isChange, Call.isCommit]

section Turns

variable {who : Bool} (h : Accounts s store requests id b unhindered r turns)
include h

section Looks

variable (silent : ∀ call, (who, call) ∉ r.calls) (htarget : (requests who).target? = some id)
  {look : Call E} (hlook : s.lookup? (requests who) = some look)
include silent htarget hlook

theorem Accounts.turn_missing
    (hmisses : Misses look (r.scripts who)) (hget : r.world.store.get? id = none) :
    Accounts s store requests id b unhindered (r.turn who) (tick turns who) := by
  obtain ⟨outcome, hrefused, hconverses⟩ := hmisses
  have hanswer : Session.answer look (r.world.session who) =
      (Scenario.bare.reply look, r.world.session who) :=
    Session.answer_lookup hlook htarget h.quiet hget
  obtain ⟨rest, hturn, hrest⟩ := turn_of_converses hconverses hanswer
  obtain ⟨hlookup, hchange, hcommit⟩ := Service.kind_of_lookup hlook htarget
  obtain ⟨hdeletes, hcommitted⟩ := h.overtaken_of_gone (silent .commit) hget
  rw [hturn]
  refine h.resume_of_same hcommit h.quiet rfl (.over ?_ (.missing hrefused ?_ ?_ ?_))
  · rw [resume_scripts_self]
    exact hrest
  · exact overtaken_concat.mpr (.inr ⟨hdeletes, rfl, hlookup, hcommitted⟩)
  · exact (awaits_of_silent silent _).concat fun _ => hchange
  · exact (awaits_of_silent silent _).concat fun _ => hcommit

/-- A look-up that finds something cannot tell it from the entity of the beginning. -/
theorem Accounts.reply_of_found {e : E} (hget : r.world.store.get? id = some e)
    (hone : (requests who).deletes = false → (requests !who).deletes = true) :
    Session.answer look (r.world.session who) =
      ((Scenario.fair b).reply look, r.world.session who) := by
  have hanswer : Session.answer look (r.world.session who) =
      ((Scenario.fair e).reply look, r.world.session who) :=
    Session.answer_lookup hlook htarget h.quiet hget
  rw [hanswer]
  cases hdeletes : (requests who).deletes with
  | true =>
    have hsame : (Scenario.fair e).reply look = (Scenario.fair b).reply look :=
      Scenario.reply_lookup hlook htarget (.inr ⟨hdeletes, rfl⟩)
    rw [hsame]
  | false =>
    -- The other one removes the entity, so it puts no other one in its place.
    rcases h.kept e hget with rfl | ⟨w, hkeeps, hcommit⟩
    · rfl
    · by_cases hw : w = who
      · subst hw
        exact absurd hcommit (silent .commit)
      · rw [Bool.eq_not_of_ne hw, hone hdeletes] at hkeeps
        cases hkeeps

theorem Accounts.turn_found {e : E} (hget : r.world.store.get? id = some e)
    (hone : (requests who).deletes = false → (requests !who).deletes = true)
    {exchanges : List (Exchange E)} {outcome : Except String (Except Problem Grant)}
    (hconverses : Converses (r.scripts who) ((Scenario.fair b).exchange look :: exchanges)
      outcome) :
    ∃ rest, r.turn who = r.resume who look rest (r.world.session who) ∧
      (∀ {exchanges : List (Exchange E)} {outcome : Except String (Except Problem Grant)},
        Converses (r.scripts who) ((Scenario.fair b).exchange look :: exchanges) outcome →
          Converses rest exchanges outcome) ∧
      ¬ Overtaken requests (r.calls ++ [(who, look)]) who Call.isLookup ∧
      Awaits (r.calls ++ [(who, look)]) who Call.isChange ∧
      Awaits (r.calls ++ [(who, look)]) who Call.isCommit := by
  obtain ⟨rest, hturn, hrest⟩ :=
    turn_of_reply hconverses (h.reply_of_found silent htarget hlook hget hone)
  obtain ⟨hlookup, hchange, hcommit⟩ := Service.kind_of_lookup hlook htarget
  exact ⟨rest, hturn, hrest,
    (awaits_of_silent silent _).not_overtaken_concat (h.not_overtaken_of_found hget),
    (awaits_of_silent silent _).concat fun _ => hchange,
    (awaits_of_silent silent _).concat fun _ => hcommit⟩

end Looks

theorem Accounts.turn_fresh (htarget : (requests who).target? = some id)
    (hone : (requests who).deletes = false → (requests !who).deletes = true) (hn : turns who = 0)
    (errand : s.Errand (requests who) id b (unhindered who) (r.scripts who))
    (silent : ∀ call, (who, call) ∉ r.calls) :
    Accounts s store requests id b unhindered (r.turn who) (tick turns who) := by
  cases errand with
  | silent hconverses =>
    rw [turn_of_over hconverses]
    exact h.idle (.over hconverses (.of_silent silent))
  | @idle look rest looks misses quits hconverses =>
    cases hget : r.world.store.get? id with
    | none => exact h.turn_missing silent htarget looks misses hget
    | some e =>
      obtain ⟨script, hturn, hrest, hlookups, hchanges, hcommits⟩ :=
        h.turn_found silent htarget looks hget hone hconverses
      rw [hturn]
      refine h.resume_of_same (Service.kind_of_lookup looks htarget).2.2 h.quiet rfl ?_
      obtain ⟨haside, hlength⟩ := aside_of_quits quits
      rw [hn]
      refine .settled haside hlength ?_
        (.clear hlookups hchanges.not_overtaken fun _ => hcommits.not_overtaken)
      rw [resume_scripts_self]
      exact hrest hconverses
  | busy looks misses alters hpursues =>
    cases hget : r.world.store.get? id with
    | none => exact h.turn_missing silent htarget looks misses hget
    | some e =>
      obtain ⟨outcome, hconverses, -⟩ := hpursues (.fair b) rfl
      obtain ⟨script, hturn, hrest, hlookups, hchanges, hcommits⟩ :=
        h.turn_found silent htarget looks hget hone hconverses
      rw [hturn]
      refine h.resume_of_same (Service.kind_of_lookup looks htarget).2.2 h.quiet rfl ?_
      rw [hn]
      refine .found alters ?_ hlookups hchanges hcommits
      rw [resume_scripts_self]
      exact hpursues.next hrest fun sc hsc => ⟨hsc, Scenario.reply_lookup looks htarget (.inl hsc)⟩

theorem Accounts.turn_begin (hn : turns who = 1) {call : Call E} {change : Staged E}
    (alters : (requests who).Alters id call change)
    (plan : Pursues (·.found = some b) (unhindered who) [.begin, call] (r.scripts who))
    (lookups : ¬ Overtaken requests r.calls who Call.isLookup)
    (changes : Awaits r.calls who Call.isChange) (commits : Awaits r.calls who Call.isCommit) :
    Accounts s store requests id b unhindered (r.turn who) (tick turns who) := by
  have hanswer : Session.answer .begin (r.world.session who) = (.returned (), _) :=
    Session.answer_begin_of_faultless (congrArg Faults.begin h.quiet)
  rw [Session.begin_of_quiet h.quiet] at hanswer
  obtain ⟨outcome, hconverses, -⟩ := plan (.fair b) rfl
  obtain ⟨rest, hturn, hrest⟩ := turn_of_reply hconverses hanswer
  rw [hturn]
  refine h.resume_of_same rfl h.quiet rfl ?_
  rw [hn]
  refine .begun alters ?_ (World.resume_writes_self ..) ?_ (changes.concat fun _ => rfl)
    (commits.concat fun _ => rfl)
  · rw [resume_scripts_self]
    exact plan.next hrest fun sc hsc => ⟨hsc, rfl⟩
  · exact mt (overtaken_concat_of fun _ => rfl).mp lookups

/-- The change is staged, or the identifier has become free behind the look-up. -/
theorem Accounts.turn_change (hn : turns who = 2) {call : Call E} {change : Staged E}
    (alters : (requests who).Alters id call change)
    (plan : Pursues (·.found = some b) (unhindered who) [call] (r.scripts who))
    (writes : r.world.writes who = ∅)
    (lookups : ¬ Overtaken requests r.calls who Call.isLookup)
    (changes : Awaits r.calls who Call.isChange) (commits : Awaits r.calls who Call.isCommit) :
    Accounts s store requests id b unhindered (r.turn who) (tick turns who) := by
  have hstaging := alters.isSome
  obtain ⟨hlookup, hchange, hcommit⟩ := Call.kind_of_staging hstaging
  have hlookups : ¬ Overtaken requests (r.calls ++ [(who, call)]) who Call.isLookup :=
    mt (overtaken_concat_of fun _ => hlookup).mp lookups
  have hcommits : Awaits (r.calls ++ [(who, call)]) who Call.isCommit :=
    commits.concat fun _ => hcommit
  cases hget : r.world.store.get? id with
  | none =>
    have hanswer : Session.answer call (r.world.session who) =
        ((⟨some b, false, none⟩ : Scenario E).reply call, r.world.session who) :=
      Session.answer_change_of_gone alters.1 h.quiet writes hget rfl
    obtain ⟨outcome, hconverses, -, hrefused⟩ := plan ⟨some b, false, none⟩ rfl
    obtain ⟨rest, hturn, hrest⟩ := turn_of_converses hconverses hanswer
    obtain ⟨hdeletes, hcommitted⟩ := h.overtaken_of_gone commits.not_commit hget
    rw [hturn]
    refine h.resume_of_same hcommit h.quiet rfl ?_
    rw [hn]
    refine .unwinding (by omega) ?_ (.failing (hrefused fun hclear => Bool.noConfusion hclear.1)
      hlookups (.inl ?_) fun _ => hcommits)
    · rw [resume_scripts_self]
      exact hrest
    · exact overtaken_concat.mpr (.inr ⟨hdeletes, rfl, hchange, hcommitted⟩)
  | some e =>
    have hanswer : Session.answer call (r.world.session who) = ((Scenario.fair b).reply call, _) :=
      Session.answer_change_of_found alters.1 h.quiet writes hget rfl
    obtain ⟨outcome, hconverses, -⟩ := plan (.fair b) rfl
    obtain ⟨rest, hturn, hrest⟩ := turn_of_reply hconverses hanswer
    rw [hturn]
    refine h.resume_of_same hcommit h.quiet rfl ?_
    rw [hn]
    refine .staged alters ?_ (World.resume_writes_self ..) hlookups ?_ hcommits
    · rw [resume_scripts_self]
      exact plan.next hrest fun sc hsc => ⟨hsc.1, Scenario.reply_change hstaging hsc.2⟩
    · exact changes.not_overtaken_concat (h.not_overtaken_of_found hget)

/-- A commit that goes through, from what it leaves under the identifier. -/
theorem Accounts.turn_commit_of_agreement (hn : turns who = 3) {change : Staged E}
    (plan : Pursues (fun sc => sc.found = some b ∧ sc.taken = true) (unhindered who) []
      (r.scripts who))
    (writes : r.world.writes who = (∅ : WriteSet E).insert id change)
    (lookups : ¬ Overtaken requests r.calls who Call.isLookup)
    (changes : ¬ Overtaken requests r.calls who Call.isChange)
    (commits : (requests who).deletes = false →
      ¬ Overtaken requests (r.calls ++ [(who, .commit)]) who Call.isCommit)
    (hagrees : r.world.store.contradicts id change = false)
    (hgone : change.value? = none ↔
      ∃ w, (requests w).deletes = true ∧ (w, .commit) ∈ r.calls ++ [(who, .commit)])
    (hkept : ∀ e, change.value? = some e → (requests who).deletes = false) :
    Accounts s store requests id b unhindered (r.turn who) (tick turns who) := by
  have hanswer := Session.answer_commit_single (x := r.world.session who)
    (congrArg Faults.commit h.quiet) writes hagrees
  obtain ⟨outcome, hconverses, hclear, -⟩ := plan (.fair b) ⟨rfl, rfl⟩
  rw [hclear ⟨rfl, rfl⟩] at hconverses
  obtain ⟨rest, hturn, hrest⟩ := turn_of_converses hconverses hanswer
  have hget (other : Int) := Store.get?_applyStaged r.world.store id other change
  have hleft := (hget id).trans (if_pos rfl)
  rw [hturn]
  refine h.resume ?_ (fun other hother => (hget other).trans (if_neg hother)) ?_ ?_ ?_
  · cases change <;> exact h.quiet
  · rw [← hgone, ← hleft]
    exact Iff.rfl
  · intro e he
    exact .inr ⟨who, hkept e (hleft.symm.trans he), by simp⟩
  · rw [hn]
    refine .releasing (by omega) ?_ (.clear ?_ ?_ commits)
    · rw [resume_scripts_self]
      exact hrest
    · exact mt (overtaken_concat_of fun _ => rfl).mp lookups
    · exact mt (overtaken_concat_of fun _ => rfl).mp changes

/-- The entity that a change is to take the place of has gone behind the change. -/
theorem Accounts.turn_commit_of_gone (hn : turns who = 3) {e : E}
    (hdeletes : (requests who).deletes = false)
    (plan : Pursues (fun sc => sc.found = some b ∧ sc.taken = true) (unhindered who) []
      (r.scripts who))
    (writes : r.world.writes who = (∅ : WriteSet E).insert id (.update e))
    (lookups : ¬ Overtaken requests r.calls who Call.isLookup)
    (commits : Awaits r.calls who Call.isCommit) (hget : r.world.store.get? id = none) :
    Accounts s store requests id b unhindered (r.turn who) (tick turns who) := by
  have hcontradicts : r.world.store.contradicts id (.update e) = true :=
    (Store.contradicts_iff ..).mpr (.inr ⟨⟨e, rfl⟩, hget⟩)
  have hanswer := Session.answer_commit_single_of_contradicts (x := r.world.session who)
    (congrArg Faults.commit h.quiet) writes hcontradicts
  obtain ⟨outcome, hconverses, -, hrefused⟩ := plan ⟨some b, true, some _⟩ ⟨rfl, rfl⟩
  obtain ⟨rest, hturn, hrest⟩ := turn_of_converses hconverses hanswer
  obtain ⟨hremoves, hcommitted⟩ := h.overtaken_of_gone commits.not_commit hget
  rw [hturn]
  refine h.resume h.quiet (fun _ _ => rfl) ?_ ?_ ?_
  · exact iff_of_true hget ⟨!who, hremoves, List.mem_append_left _ hcommitted⟩
  · intro e' he'
    have hsome : r.world.store.get? id = some e' := he'
    rw [hget] at hsome
    cases hsome
  · rw [hn]
    refine .unwinding (by omega) ?_
      (.failing (hrefused fun hclear => ?_) ?_ (.inr ⟨hdeletes, ?_⟩) ?_)
    · rw [resume_scripts_self]
      exact hrest
    · cases hclear.2
    · exact mt (overtaken_concat_of fun _ => rfl).mp lookups
    · exact overtaken_concat.mpr (.inr ⟨hremoves, rfl, rfl, hcommitted⟩)
    · intro htrue
      rw [hdeletes] at htrue
      cases htrue

theorem Accounts.turn_commit (hn : turns who = 3) {call : Call E} {change : Staged E}
    (alters : (requests who).Alters id call change)
    (plan : Pursues (fun sc => sc.found = some b ∧ sc.taken = true) (unhindered who) []
      (r.scripts who))
    (writes : r.world.writes who = (∅ : WriteSet E).insert id change)
    (lookups : ¬ Overtaken requests r.calls who Call.isLookup)
    (changes : ¬ Overtaken requests r.calls who Call.isChange)
    (commits : Awaits r.calls who Call.isCommit) :
    Accounts s store requests id b unhindered (r.turn who) (tick turns who) := by
  have hchange := alters.2
  cases hdeletes : (requests who).deletes with
  | true =>
    -- A removal relies on nothing.
    rw [hdeletes, if_pos rfl] at hchange
    subst hchange
    refine h.turn_commit_of_agreement hn plan writes lookups changes ?_ rfl ?_ ?_
    · intro hfalse
      rw [hdeletes] at hfalse
      cases hfalse
    · exact iff_of_true rfl ⟨who, hdeletes, by simp⟩
    · intro e hvalue
      cases hvalue
  | false =>
    rw [hdeletes, if_neg Bool.false_ne_true] at hchange
    obtain ⟨e, rfl⟩ := hchange
    cases hget : r.world.store.get? id with
    | none => exact h.turn_commit_of_gone hn hdeletes plan writes lookups commits hget
    | some e' =>
      have hagrees : r.world.store.contradicts id (.update e) = false := by
        rw [Store.contradicts, Store.contains_entities, hget]
        rfl
      refine h.turn_commit_of_agreement hn plan writes lookups changes
        (fun _ => commits.not_overtaken_concat (h.not_overtaken_of_found hget)) hagrees ?_
        fun _ _ => hdeletes
      refine iff_of_false (Option.some_ne_none e) ?_
      rintro ⟨w, hremoves, hcommitted⟩
      rcases mem_concat_commit.mp hcommitted with hcommitted | rfl
      · have hnone := h.gone.mpr ⟨w, hremoves, hcommitted⟩
        rw [hget] at hnone
        cases hnone
      · rw [hdeletes] at hremoves
        cases hremoves

theorem Accounts.turn_settled {rest : List (Call E)}
    {outcome : Except String (Except Problem Grant)}
    (aside : ∀ call ∈ rest, call.isAside = true) (short : rest.length ≤ 6 - turns who)
    (script : Converses (r.scripts who) (rest.map (Scenario.fair b).exchange) outcome)
    (settles : Settles requests r.calls who (unhindered who) outcome) :
    Accounts s store requests id b unhindered (r.turn who) (tick turns who) := by
  cases rest with
  | nil =>
    rw [turn_of_over script]
    exact h.idle (.over script settles)
  | cons call rest =>
    obtain ⟨hcall, hrest⟩ := List.forall_mem_cons.mp aside
    obtain ⟨y, hanswer, hquiet, hsame⟩ :=
      answer_aside (b := b) (x := r.world.session who) hcall h.quiet
    obtain ⟨next, hturn, hnext⟩ := turn_of_converses script hanswer
    have hcommit : call.isCommit = false := by
      cases call <;> first | rfl | cases hcall
    rw [hturn]
    refine h.resume_of_same hcommit hquiet hsame
      (.settled hrest ?_ ?_ (settles.concat fun _ => hcall))
    · rw [List.length_cons] at short
      omega
    · rw [resume_scripts_self]
      exact hnext

/-- **One turn** takes the request whose turn it is one call further, and keeps the account. -/
theorem Accounts.turn (htarget : ∀ who, (requests who).target? = some id)
    (hone : ∀ who, (requests who).deletes = false → (requests !who).deletes = true) (who : Bool) :
    Accounts s store requests id b unhindered (r.turn who) (tick turns who) := by
  have hstanding := h.standing who
  generalize hn : turns who = n at hstanding
  cases hstanding with
  | fresh errand silent => exact h.turn_fresh (htarget who) (hone who) hn errand silent
  | found alters plan lookups changes commits =>
    exact h.turn_begin hn alters plan lookups changes commits
  | begun alters plan writes lookups changes commits =>
    exact h.turn_change hn alters plan writes lookups changes commits
  | staged alters plan writes lookups changes commits =>
    exact h.turn_commit hn alters plan writes lookups changes commits
  | settled aside short script settles =>
    subst hn
    exact h.turn_settled aside short script settles

end Turns

theorem Accounts.run (h : Accounts s store requests id b unhindered r turns)
    (htarget : ∀ who, (requests who).target? = some id)
    (hone : ∀ who, (requests who).deletes = false → (requests !who).deletes = true)
    (schedule : List Bool) :
    Accounts s store requests id b unhindered (r.run schedule)
      fun who => turns who + schedule.count who :=
  run_keeps (P := Accounts s store requests id b unhindered)
    (fun h who => h.turn htarget hone who) h schedule

/-! ## What the requests come to -/

/-- A request that is over has settled. -/
theorem Standing.settles {who : Bool} {plain outcome : Except String (Except Problem Grant)}
    {n : Nat} (h : Standing s requests id b r who plain n)
    (houtcome : r.outcome? who = some outcome) : Settles requests r.calls who plain outcome := by
  -- Whoever is in the middle of a conversation is not over.
  have hbusy {exchange : Exchange E} {exchanges : List (Exchange E)}
      {outcome' : Except String (Except Problem Grant)}
      (hconverses : Converses (r.scripts who) (exchange :: exchanges) outcome') : False := by
    have hnone : r.outcome? who = none := hconverses.outcome?_eq_none
    rw [houtcome] at hnone
    cases hnone
  have hover {outcome' : Except String (Except Problem Grant)}
      (hconverses : Converses (r.scripts who) [] outcome') : outcome' = outcome := by
    have hsome : r.outcome? who = some outcome' := hconverses.outcome?
    exact Option.some.inj (hsome.symm.trans houtcome)
  cases h with
  | fresh errand silent =>
    cases errand with
    | silent hconverses =>
      rw [← hover hconverses]
      exact .of_silent silent
    | idle looks misses quits hconverses => exact (hbusy hconverses).elim
    | busy looks misses alters hpursues =>
      obtain ⟨outcome', hconverses, -⟩ := hpursues (.fair b) rfl
      exact (hbusy hconverses).elim
  | found alters plan lookups changes commits =>
    obtain ⟨outcome', hconverses, -⟩ := plan (.fair b) rfl
    exact (hbusy hconverses).elim
  | begun alters plan writes lookups changes commits =>
    obtain ⟨outcome', hconverses, -⟩ := plan (.fair b) rfl
    exact (hbusy hconverses).elim
  | staged alters plan writes lookups changes commits =>
    obtain ⟨outcome', hconverses, -⟩ := plan (.fair b) ⟨rfl, rfl⟩
    exact (hbusy hconverses).elim
  | @settled rest outcome' n aside short script settles =>
    cases rest with
    | nil =>
      rw [← hover script]
      exact settles
    | cons call rest => exact (hbusy script).elim

/-- No request makes more than six calls. -/
theorem Standing.over_of_turns {who : Bool} {plain : Except String (Except Problem Grant)}
    {n : Nat} (h : Standing s requests id b r who plain n) (hn : 6 ≤ n) :
    ∃ outcome, r.outcome? who = some outcome := by
  cases h with
  | @settled rest outcome n aside short script settles =>
    have hnil : rest = [] := List.eq_nil_of_length_eq_zero (by omega)
    rw [hnil] at script
    exact ⟨outcome, script.outcome?⟩
  | _ => omega

end Standing

end Race

end ResourceApi
