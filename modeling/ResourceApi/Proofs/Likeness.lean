import ResourceApi.Scope

/-!
# Alike scripts

Repositories fail in their own words, and what crashes leaves words behind. Two scripts are alike if
they make the same calls and no words that they are told or leave behind make a difference to what
they call next. Over repositories that fail at the same calls, alike scripts come to alike ends.

## Main definitions

- `Outcome.Alike` — results with alike values, or with alike reasons why there is none
- `Reply.Alike` — replies that differ at most in words
- `Script.Alike` — scripts that differ at most in words
- `Script.Answerer.Alike` — repositories that fail and crash at the same calls
- `Script.Run.Alike` — runs with alike ends and the same calls

## Main results

- `Script.Alike.bind`, `Script.Alike.attempt` — scripts put together from alike ones
- `Scope.alike_run` — alike work in a scope
- `Script.Alike.run` — what alike scripts come to
-/

namespace ResourceApi

variable {E α β γ δ ε ζ σ τ : Type}

/-- Results with alike values, or with alike reasons why there is none. -/
inductive Outcome.Alike (Words : ε → ζ → Prop) (Value : α → β → Prop) :
    Except ε α → Except ζ β → Prop
  | ok {a : α} {b : β} (h : Value a b) : Alike Words Value (.ok a) (.ok b)
  | error {e : ε} {d : ζ} (h : Words e d) : Alike Words Value (.error e) (.error d)

/-- All words are alike. -/
abbrev AnyWords : ε → ζ → Prop := fun _ _ => True

/-- Replies that differ at most in the words of a failure or a crash. -/
inductive Reply.Alike : Reply α → Reply α → Prop
  | returned (value : α) : Alike (.returned value) (.returned value)
  | failed (failure failure' : Failure) : Alike (.failed failure) (.failed failure')
  | crashed (message message' : String) : Alike (.crashed message) (.crashed message')

theorem Outcome.alike_mapError (rephrase : ε → ζ) (x : Except ε α) :
    Outcome.Alike AnyWords Eq x (x.mapError rephrase) := by
  cases x with
  | ok a => exact .ok rfl
  | error e => exact .error trivial

namespace Outcome.Alike

variable {Words : ε → ζ → Prop} {V : α → β → Prop} {W : γ → δ → Prop}

theorem bind {x : Except ε α} {y : Except ζ β} {f : α → Except ε γ} {g : β → Except ζ δ}
    (h : Outcome.Alike Words V x y) (hnext : ∀ a b, V a b → Outcome.Alike Words W (f a) (g b)) :
    Outcome.Alike Words W (x >>= f) (y >>= g) := by
  cases h with
  | ok hab => exact hnext _ _ hab
  | error hwords => exact .error hwords

/-- Alike readings of the entries of a list are alike readings of the list, by induction on it. -/
theorem mapM {f : γ → Except ε α} {g : γ → Except ζ α} (h : ∀ c, Outcome.Alike Words Eq (f c) (g c))
    (cs : List γ) : Outcome.Alike Words Eq (cs.mapM f) (cs.mapM g) := by
  induction cs with
  | nil => exact .ok rfl
  | cons c cs ih =>
    rw [List.mapM_cons, List.mapM_cons]
    refine (h c).bind fun a b hab => ?_
    refine ih.bind fun as bs habs => ?_
    exact .ok (by rw [hab, habs])

end Outcome.Alike

namespace Script

/-- Scripts that differ at most in words: they make the same calls, go on alike with alike replies,
return alike values and crash together. What they record does not matter. -/
inductive Alike (V : α → β → Prop) : Script E α → Script E β → Prop
  | done {a : α} {b : β} (h : V a b) : Alike V (.done a) (.done b)
  | crash (message message' : String) : Alike V (.crash message) (.crash message')
  | ask (call : Call E) {next : Reply call.Result → Script E α}
      {next' : Reply call.Result → Script E β}
      (h : ∀ reply reply', reply.Alike reply' → Alike V (next reply) (next' reply')) :
      Alike V (.ask call next) (.ask call next')
  | note (event event' : Event) {next : Script E α} {next' : Script E β} (h : Alike V next next') :
      Alike V (.note event next) (.note event' next')

variable {V : α → β → Prop} {W : γ → δ → Prop} {script : Script E α} {script' : Script E β}

/-- Alike scripts that go on alike, by induction on their first parts. -/
theorem Alike.bind {next : α → Script E γ} {next' : β → Script E δ} (h : Alike V script script')
    (hnext : ∀ a b, V a b → Alike W (next a) (next' b)) :
    Alike W (script >>= next) (script' >>= next') := by
  change Alike W (script.bind next) (script'.bind next')
  induction h with
  | done hab => exact hnext _ _ hab
  | crash message message' => exact .crash message message'
  | ask call _ ih => exact .ask call fun reply reply' hreply => ih reply reply' hreply
  | note event event' _ ih => exact .note event event' ih

/-- Where one of two alike scripts crashes the other one does, and the words of it are all that
tells the crashes apart. -/
theorem Alike.attempt (h : Alike V script script') :
    Alike (Outcome.Alike AnyWords V) script.attempt script'.attempt := by
  induction h with
  | done hab => exact .done (.ok hab)
  | crash message message' => exact .done (.error trivial)
  | ask call _ ih => exact .ask call fun reply reply' hreply => ih reply reply' hreply
  | note event event' _ ih => exact .note event event' ih

theorem alike_emit (event event' : Event) :
    Alike Eq (emit event : Script E Unit) (emit event') := .note event event' (.done rfl)

theorem alike_call (c : Call E) : Alike (Outcome.Alike AnyWords Eq) (call c) (call c) := by
  refine .ask c fun reply reply' hreply => ?_
  cases hreply with
  | returned value => exact .done (.ok rfl)
  | failed failure failure' => exact .done (.error trivial)
  | crashed message message' => exact .crash message message'

end Script

/-! ## Scopes -/

namespace Scope

open Script (Alike alike_call alike_emit)

theorem alike_release (state state' : State) :
    Alike Eq (release state : Script E Unit) (release state') := by
  refine (alike_call .release).bind fun result result' hresult => ?_
  cases hresult with
  | ok h => exact .done rfl
  | error h => exact alike_emit _ _

theorem alike_rollback : Alike Eq (rollback : Script E Unit) rollback := by
  have hdiscard : Alike Eq (discard : Script E Unit) discard := by
    refine (alike_call .rollback).bind fun result result' hresult => ?_
    cases hresult with
    | ok h => exact alike_emit _ _
    | error h => exact alike_emit _ _
  exact hdiscard.bind fun _ _ _ => alike_release _ _

theorem alike_abandon : Alike Eq (abandon : Script E Unit) abandon :=
  (alike_emit _ _).bind fun _ _ _ => alike_rollback

theorem alike_commit :
    Alike (Outcome.Alike AnyWords Eq) (commit : Script E (Except Failure Unit)) commit := by
  refine .ask .commit fun reply reply' hreply => ?_
  cases hreply with
  | returned value =>
    exact (alike_emit _ _).bind fun _ _ _ => (alike_release _ _).bind fun _ _ _ => .done (.ok rfl)
  | failed failure failure' =>
    exact (alike_emit _ _).bind fun _ _ _ => alike_rollback.bind fun _ _ _ => .done (.error trivial)
  | crashed message message' => exact alike_abandon.bind fun _ _ _ => .crash message message'

/-- **Alike work in a scope** is alike as a whole: the scope ends the same way for both. -/
theorem alike_run {V : α → β → Prop} {work : Script E (Except Failure α)}
    {work' : Script E (Except Failure β)} (h : Alike (Outcome.Alike AnyWords V) work work') :
    Alike (Outcome.Alike AnyWords V) (run work) (run work') := by
  refine h.attempt.bind fun result result' hresult => ?_
  cases hresult with
  | error hcrash => exact alike_abandon.bind fun _ _ _ => .crash _ _
  | ok hdone =>
    cases hdone with
    | error hfailure => exact alike_rollback.bind fun _ _ _ => .done (.error trivial)
    | ok hvalue =>
      refine alike_commit.bind fun committed committed' hcommitted => ?_
      cases hcommitted with
      | ok _ => exact .done (.ok hvalue)
      | error _ => exact .done (.error trivial)

end Scope

/-! ## Runs -/

namespace Script

/-- Repositories that fail and crash at the same calls, as long as their states correspond. -/
def Answerer.Alike (R : σ → τ → Prop) (answer : Answerer E σ) (answer' : Answerer E τ) : Prop :=
  ∀ (call : Call E) (x : σ) (y : τ), R x y →
    (answer call x).1.Alike (answer' call y).1 ∧ R (answer call x).2 (answer' call y).2

/-- Runs with alike ends, corresponding states and the same calls. -/
structure Run.Alike (R : σ → τ → Prop) (V : α → β → Prop) (run : Run E σ α) (run' : Run E τ β) :
    Prop where
  outcome : Outcome.Alike AnyWords V run.outcome run'.outcome
  state : R run.state run'.state
  calls : run.calls = run'.calls

/-- **Alike scripts come to alike ends** over repositories that fail at the same calls. -/
theorem Alike.run {V : α → β → Prop} {R : σ → τ → Prop} {answer : Answerer E σ}
    {answer' : Answerer E τ} {script : Script E α} {script' : Script E β}
    (h : Alike V script script') (hanswer : answer.Alike R answer') {x : σ} {y : τ} (hxy : R x y) :
    (script.run answer x).Alike R V (script'.run answer' y) := by
  -- The states move on with every call, so they have to vary in the induction.
  induction h generalizing x y with
  | done hab => exact ⟨.ok hab, hxy, rfl⟩
  | crash message message' => exact ⟨.error trivial, hxy, rfl⟩
  | ask call _ ih =>
    obtain ⟨hreply, hstates⟩ := hanswer call x y hxy
    obtain ⟨houtcome, hstate, hcalls⟩ := ih _ _ hreply hstates
    exact ⟨houtcome, hstate, congrArg (call :: ·) hcalls⟩
  | note event event' _ ih =>
    obtain ⟨houtcome, hstate, hcalls⟩ := ih hxy
    exact ⟨houtcome, hstate, hcalls⟩

end Script

end ResourceApi
