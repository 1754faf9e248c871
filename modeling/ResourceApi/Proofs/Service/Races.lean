import ResourceApi.Proofs.Script
import ResourceApi.Proofs.Service.Conversations
import ResourceApi.Proofs.Store.History
import ResourceApi.Store.Answerer

/-!
# Races

Scripts that run next to each other on one store. A schedule says whose turn it is, and with every
turn one script makes its next call; so the schedules are all the orders in which the calls of the
scripts may come.

## Main definitions

- `Script.advance` — a script makes its next call
- `Script.outcome?` — what a script without a call left comes to
- `Race` — a store, the rest of each script, and the calls made
- `Race.turn`, `Race.run` — one call, and all calls of a schedule
- `Race.callsOf` — the calls of one script

## Main results

- `Script.Converses.advance` — a script in the middle of a conversation
- `Race.run_alone` — a script that has all turns to itself runs as it does without others
- `Race.run_keeps` — what every turn keeps holds behind every schedule
- `Race.orders` — the orders in which the calls of two scripts may come, if each makes two
-/

namespace ResourceApi

variable {τ E σ α : Type}

namespace Script

/-- Makes the next call of a script, if there is one left. Events on the way are passed over. -/
def advance (answer : Answerer E σ) : Script E α → σ → Option (Call E × Script E α × σ)
  | .done _, _ => none
  | .crash _, _ => none
  | .ask call next, s => some (call, next (answer call s).1, (answer call s).2)
  | .note _ next, s => next.advance answer s

/-- What a script comes to that has no call left to make. -/
def outcome? : Script E α → Option (Except String α)
  | .done a => some (.ok a)
  | .crash message => some (.error message)
  | .ask .. => none
  | .note _ next => next.outcome?

variable {answer : Answerer E σ} {script : Script E α}

theorem course_of_advance {call : Call E} {next : Script E α} {s s' : σ}
    (h : script.advance answer s = some (call, next, s')) :
    script.course answer s = (next.course answer s').after [call] := by
  induction script with
  | done a => cases h
  | crash message => cases h
  | ask c rest ih =>
    cases h
    exact course_ask answer call rest s
  | note event rest ih => exact ih h

theorem course_of_not_advance {s : σ} (h : script.advance answer s = none) :
    ∃ outcome, script.outcome? = some outcome ∧ script.course answer s = ⟨outcome, s, []⟩ := by
  induction script with
  | done a => exact ⟨.ok a, rfl, rfl⟩
  | crash message => exact ⟨.error message, rfl, rfl⟩
  | ask c rest ih => cases h
  | note event rest ih => exact ih h

theorem advance_of_outcome? {outcome : Except String α} (h : script.outcome? = some outcome)
    (s : σ) : script.advance answer s = none := by
  induction script with
  | done a => rfl
  | crash message => rfl
  | ask c rest ih => cases h
  | note event rest ih => exact ih h

/-- In the middle of a conversation a script makes the next call of it, and goes on with the rest
if the reply is the one of the conversation. -/
theorem Converses.advance {call : Call E} {reply : Reply call.Result}
    {exchanges : List (Exchange E)} {outcome : Except String α}
    (h : Converses script (⟨call, reply⟩ :: exchanges) outcome) {s : σ}
    (hreply : (answer call s).1 = reply) :
    ∃ next, script.advance answer s = some (call, next, (answer call s).2) ∧
      Converses next exchanges outcome := by
  generalize hall : (⟨call, reply⟩ :: exchanges : List (Exchange E)) = all at h
  induction h with
  | done a => cases hall
  | crash message => cases hall
  | ask c next reply' hnext ih =>
    cases hall
    subst hreply
    exact ⟨_, rfl, hnext⟩
  | note event next hnext ih => exact ih hall

theorem Converses.outcome?_eq_none {exchange : Exchange E} {exchanges : List (Exchange E)}
    {outcome : Except String α} (h : Converses script (exchange :: exchanges) outcome) :
    script.outcome? = none := by
  generalize hall : exchange :: exchanges = all at h
  induction h with
  | done a => cases hall
  | crash message => cases hall
  | ask c next reply hnext ih => rfl
  | note event next hnext ih => exact ih hall

theorem Converses.outcome? {outcome : Except String α} (h : Converses script [] outcome) :
    script.outcome? = some outcome := by
  generalize hall : ([] : List (Exchange E)) = all at h
  induction h with
  | done a => rfl
  | crash message => rfl
  | ask c next reply hnext ih => cases hall
  | note event next hnext ih => exact ih hall

theorem Converses.advance_eq_none {outcome : Except String α} (h : Converses script [] outcome)
    (s : σ) : script.advance answer s = none :=
  advance_of_outcome? h.outcome? s

end Script

open Script (Converses)

/-- Scripts that run next to each other, each with a transaction of its own behind its handle. -/
structure Race (τ E α : Type) where
  world : World τ E
  scripts : τ → Script E α
  /-- The calls made so far, each with its caller. -/
  calls : List (τ × Call E)

namespace Race

variable [DecidableEq τ] [Entity E]

omit [DecidableEq τ] [Entity E] in
/-- What a script has come to, if it is over. -/
def outcome? (r : Race τ E α) (who : τ) : Option (Except String α) := (r.scripts who).outcome?

omit [Entity E] in
def resume (r : Race τ E α) (who : τ) (call : Call E) (rest : Script E α) (x : Session E) :
    Race τ E α :=
  ⟨r.world.resume who x, fun other => if other = who then rest else r.scripts other,
    r.calls ++ [(who, call)]⟩

section Resume

variable {r : Race τ E α} {who : τ} {call : Call E} {rest : Script E α} {x : Session E}

omit [Entity E]

theorem resume_scripts_self : (r.resume who call rest x).scripts who = rest := if_pos rfl

theorem resume_scripts_of_ne {other : τ} (h : other ≠ who) :
    (r.resume who call rest x).scripts other = r.scripts other := if_neg h

theorem resume_writes_of_ne {other : τ} (h : other ≠ who) :
    (r.resume who call rest x).world.writes other = r.world.writes other :=
  r.world.resume_writes_of_ne h x

theorem resume_calls : (r.resume who call rest x).calls = r.calls ++ [(who, call)] := rfl

end Resume

/-- One script makes its next call, unless it is over. -/
def turn (r : Race τ E α) (who : τ) : Race τ E α :=
  match (r.scripts who).advance Session.answer (r.world.session who) with
  | none => r
  | some (call, rest, x) => r.resume who call rest x

/-- The scripts make their calls in the order of a schedule. -/
def run (r : Race τ E α) (schedule : List τ) : Race τ E α := schedule.foldl turn r

theorem turn_of_advance {r : Race τ E α} {who : τ} {call : Call E} {rest : Script E α}
    {x : Session E}
    (h : (r.scripts who).advance Session.answer (r.world.session who) = some (call, rest, x)) :
    r.turn who = r.resume who call rest x := by
  rw [turn, h]

/-- What a script does with its next turn is in the middle of every conversation that goes on with
the same reply. -/
theorem turn_of_reply {r : Race τ E α} {who : τ} {call : Call E} {reply : Reply call.Result}
    {exchanges : List (Exchange E)} {outcome : Except String α} {x : Session E}
    (h : Converses (r.scripts who) (⟨call, reply⟩ :: exchanges) outcome)
    (hanswer : Session.answer call (r.world.session who) = (reply, x)) :
    ∃ rest, r.turn who = r.resume who call rest x ∧ ∀ {exchanges : List (Exchange E)}
      {outcome : Except String α}, Converses (r.scripts who) (⟨call, reply⟩ :: exchanges) outcome →
        Converses rest exchanges outcome := by
  have hreply : (Session.answer call (r.world.session who)).1 = reply := congrArg Prod.fst hanswer
  obtain ⟨rest, hadvance, -⟩ := h.advance hreply
  refine ⟨rest, turn_of_advance (by rw [hadvance, hanswer]), fun h' => ?_⟩
  obtain ⟨rest', hadvance', hrest⟩ := h'.advance hreply
  -- There is one script to go on with, whichever conversation it is taken from.
  rw [hadvance, Option.some.injEq, Prod.mk.injEq, Prod.mk.injEq] at hadvance'
  rw [hadvance'.2.1]
  exact hrest

theorem turn_of_converses {r : Race τ E α} {who : τ} {call : Call E} {reply : Reply call.Result}
    {exchanges : List (Exchange E)} {outcome : Except String α} {x : Session E}
    (h : Converses (r.scripts who) (⟨call, reply⟩ :: exchanges) outcome)
    (hanswer : Session.answer call (r.world.session who) = (reply, x)) :
    ∃ rest, r.turn who = r.resume who call rest x ∧ Converses rest exchanges outcome := by
  obtain ⟨rest, hturn, hrest⟩ := turn_of_reply h hanswer
  exact ⟨rest, hturn, hrest h⟩

theorem turn_of_over {r : Race τ E α} {who : τ} {outcome : Except String α}
    (h : Converses (r.scripts who) [] outcome) : r.turn who = r := by
  rw [turn, h.advance_eq_none]

/-- **A script that has all turns to itself** makes the calls of its run and comes to the same end:
what is said of scripts by themselves is said of races in which nobody else has a turn. -/
theorem run_alone (r : Race τ E α) (who : τ) {n : Nat}
    (hn : ((r.scripts who).course Session.answer (r.world.session who)).calls.length ≤ n) :
    let course := (r.scripts who).course Session.answer (r.world.session who)
    let after := r.run (List.replicate n who)
    after.outcome? who = some course.outcome ∧ after.world.session who = course.state ∧
      after.calls = r.calls ++ course.calls.map fun call => (who, call) := by
  -- Every turn takes the first call off the course, so as many turns as there are calls end it.
  induction n generalizing r with
  | zero =>
    cases hadvance : (r.scripts who).advance Session.answer (r.world.session who) with
    | none =>
      obtain ⟨outcome, houtcome, hcourse⟩ := Script.course_of_not_advance hadvance
      rw [hcourse]
      exact ⟨houtcome, rfl, (List.append_nil _).symm⟩
    | some moved =>
      obtain ⟨call, rest, x⟩ := moved
      rw [Script.course_of_advance hadvance] at hn
      cases hn
  | succ n ih =>
    rw [List.replicate_succ, run, List.foldl_cons, ← run]
    cases hadvance : (r.scripts who).advance Session.answer (r.world.session who) with
    | none =>
      obtain ⟨outcome, houtcome, hcourse⟩ := Script.course_of_not_advance hadvance
      -- The script is over already, and the turn is left unused.
      have hstill : r.turn who = r := by rw [turn, hadvance]
      rw [hstill]
      exact ih r (by rw [hcourse]; exact Nat.zero_le n)
    | some moved =>
      obtain ⟨call, rest, x⟩ := moved
      have hcourse := Script.course_of_advance hadvance
      have hscript : (r.turn who).scripts who = rest := by
        rw [turn_of_advance hadvance, resume_scripts_self]
      have hsession : (r.turn who).world.session who = x := by
        rw [turn_of_advance hadvance, resume, World.resume_session_self]
      have hcalls : (r.turn who).calls = r.calls ++ [(who, call)] := by
        rw [turn_of_advance hadvance, resume_calls]
      have hrest := ih (r.turn who) (by
        rw [hscript, hsession]
        rw [hcourse, Course.calls_after, List.length_append, List.length_singleton] at hn
        omega)
      rw [hscript, hsession, hcalls] at hrest
      obtain ⟨houtcome, hstate, hmade⟩ := hrest
      rw [hcourse]
      refine ⟨houtcome, hstate, ?_⟩
      rw [hmade, List.append_assoc]
      rfl

end Race

/-! ## Invariants that count turns -/

namespace Race

variable [Entity E]

/-- One turn more for one of the two. -/
def tick (turns : Bool → Nat) (who : Bool) : Bool → Nat :=
  fun other => if other = who then turns who + 1 else turns other

/-- What every turn keeps holds behind every schedule, by induction on the schedule. -/
theorem run_keeps {P : Race Bool E α → (Bool → Nat) → Prop}
    (hturn : ∀ {r : Race Bool E α} {turns : Bool → Nat}, P r turns →
      ∀ who, P (r.turn who) (tick turns who))
    {r : Race Bool E α} {turns : Bool → Nat} (h : P r turns) (schedule : List Bool) :
    P (r.run schedule) fun who => turns who + schedule.count who := by
  induction schedule generalizing r turns with
  | nil => exact h
  | cons who schedule ih =>
    have hturns : (fun other => turns other + (who :: schedule).count other) =
        fun other => tick turns who other + schedule.count other := by
      funext other
      rw [List.count_cons, tick]
      by_cases hother : other = who
      · subst hother
        simp only [if_pos, beq_self_eq_true]
        omega
      · rw [if_neg hother, if_neg (by simpa using Ne.symm hother)]
        omega
    rw [hturns, Race.run, List.foldl_cons, ← Race.run]
    exact ih (hturn h who)

end Race

/-! ## Whose calls -/

namespace Race

def callsOf [DecidableEq τ] (who : τ) (calls : List (τ × Call E)) : List (τ × Call E) :=
  calls.filter fun call => call.1 == who

theorem callsOf_append [DecidableEq τ] (who : τ) (calls more : List (τ × Call E)) :
    callsOf who (calls ++ more) = callsOf who calls ++ callsOf who more :=
  List.filter_append ..

theorem callsOf_cons_self [DecidableEq τ] (who : τ) (call : Call E) (calls : List (τ × Call E)) :
    callsOf who ((who, call) :: calls) = (who, call) :: callsOf who calls :=
  List.filter_cons_of_pos (beq_self_eq_true who)

theorem callsOf_cons_of_ne [DecidableEq τ] {who other : τ} (h : other ≠ who) (call : Call E)
    (calls : List (τ × Call E)) : callsOf who ((other, call) :: calls) = callsOf who calls :=
  List.filter_cons_of_neg (by simpa using h)

/-- Of two scripts, if one has called nothing, all calls are the other one's. -/
theorem eq_callsOf_not {who : Bool} {calls : List (Bool × Call E)} (h : callsOf who calls = []) :
    calls = callsOf (!who) calls := by
  refine (List.filter_eq_self.mpr fun call hcall => ?_).symm
  have hne := List.filter_eq_nil_iff.mp h call hcall
  rw [beq_iff_eq]
  exact Bool.eq_not_of_ne fun heq => hne (beq_iff_eq.mpr heq)

/-- **The orders of two calls of each of two scripts**: one script is done before the other one
begins, or both have made their first call before either makes its second one. -/
theorem orders {first second : Bool → Call E} {calls : List (Bool × Call E)}
    (h : ∀ who, callsOf who calls = [(who, first who), (who, second who)]) :
    ∃ who,
      calls = [(who, first who), (who, second who), (!who, first !who), (!who, second !who)] ∨
      calls = [(who, first who), (!who, first !who), (who, second who), (!who, second !who)] ∨
      calls = [(who, first who), (!who, first !who), (!who, second !who), (who, second who)] := by
  cases calls with
  | nil => cases h true
  | cons first calls =>
    obtain ⟨who, call⟩ := first
    have hself := h who
    have hother := h (!who)
    have hne : who ≠ !who := by simp
    rw [callsOf_cons_self] at hself
    rw [callsOf_cons_of_ne hne] at hother
    obtain ⟨hfirst, hself⟩ := List.cons.inj hself
    rw [hfirst]
    refine ⟨who, ?_⟩
    cases calls with
    | nil => cases hself
    | cons second calls =>
      obtain ⟨x, call⟩ := second
      by_cases hx : x = who
      · subst hx
        rw [callsOf_cons_self] at hself
        rw [callsOf_cons_of_ne hne] at hother
        obtain ⟨hsecond, hself⟩ := List.cons.inj hself
        rw [hsecond, eq_callsOf_not hself, hother]
        exact .inl rfl
      · obtain rfl : x = !who := Bool.eq_not_of_ne hx
        rw [callsOf_cons_of_ne hx] at hself
        rw [callsOf_cons_self] at hother
        obtain ⟨hsecond, hother⟩ := List.cons.inj hother
        rw [hsecond]
        -- Both have read, and either may write first.
        cases calls with
        | nil => cases hself
        | cons third calls =>
          obtain ⟨y, call⟩ := third
          by_cases hy : y = who
          · subst hy
            rw [callsOf_cons_self] at hself
            rw [callsOf_cons_of_ne hne] at hother
            obtain ⟨hthird, hself⟩ := List.cons.inj hself
            rw [hthird, eq_callsOf_not hself, hother]
            exact .inr (.inl rfl)
          · obtain rfl : y = !who := Bool.eq_not_of_ne hy
            rw [callsOf_cons_of_ne hy] at hself
            rw [callsOf_cons_self] at hother
            obtain ⟨hthird, hother⟩ := List.cons.inj hother
            have hlast := eq_callsOf_not hother
            rw [Bool.not_not, hself] at hlast
            rw [hthird, hlast]
            exact .inr (.inr rfl)

end Race

end ResourceApi
