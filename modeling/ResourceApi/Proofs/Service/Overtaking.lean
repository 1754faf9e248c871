import ResourceApi.Proofs.Service.Scenarios

/-!
# Overtaken calls

Of two requests about one entity, one may remove the entity and commit that while the other one is
on its way. What this means for the other one depends on the first call that it makes behind the
commit: its look-up finds nothing, its change comes too late, or its commit does.

## Main definitions

- `Race.Overtaken` — the other request has removed the entity when this one makes a call
- `Race.Awaits` — a request has not made a call yet
- `Race.Settles` — what a request comes to

## Main results

- `Race.overtaken_concat` — only a call of its own makes a request overtaken
- `Race.Settles.missing_iff`, `Race.Settles.failing_iff` — why a request is refused
-/

namespace ResourceApi

variable {E D : Type}

namespace Call

def isLookup : Call E → Bool
  | .findAll _ | .findById _ | .contains _ => true
  | _ => false

def isCommit : Call E → Bool
  | .commit => true
  | _ => false

/-- Whether a call is neither a look-up nor a change nor a commit. -/
def isAside (call : Call E) : Bool := !call.isLookup && !call.isChange && !call.isCommit

theorem kind_of_staging [Entity E] {call : Call E} (h : call.staging?.isSome) :
    call.isLookup = false ∧ call.isChange = true ∧ call.isCommit = false := by
  cases call with
  | update e | updatePartial e | delete id => exact ⟨rfl, rfl, rfl⟩
  | _ => cases h

end Call

theorem Service.kind_of_lookup {s : Service E D} {request : Request} {id : Int} {look : Call E}
    (hlook : s.lookup? request = some look) (htarget : request.target? = some id) :
    look.isLookup = true ∧ look.isChange = false ∧ look.isCommit = false := by
  cases request with
  | update _ body | updatePartial _ body | delete _ =>
    cases hlook
    exact ⟨rfl, rfl, rfl⟩
  | _ => cases htarget

namespace Race

/-! ## The order of calls -/

section Order

variable {requests : Bool → Request} {calls : List (Bool × Call E)} {who caller : Bool}
  {kind : Call E → Bool} {call : Call E}

/-- The other one of two requests removes the entity, and has committed that when this one makes a
call of a kind. -/
def Overtaken (requests : Bool → Request) (calls : List (Bool × Call E)) (who : Bool)
    (kind : Call E → Bool) : Prop :=
  (requests !who).deletes = true ∧
    ∃ call, kind call = true ∧ [(!who, .commit), (who, call)].Sublist calls

/-- A request has made no call of a kind yet. -/
def Awaits (calls : List (Bool × Call E)) (who : Bool) (kind : Call E → Bool) : Prop :=
  ∀ call, (who, call) ∈ calls → kind call = false

theorem pair_sublist_concat {α : Type} {a b c : α} {l : List α} :
    [a, b].Sublist (l ++ [c]) ↔ [a, b].Sublist l ∨ (a ∈ l ∧ b = c) := by
  rw [← List.reverse_sublist, ← @List.reverse_sublist _ [a, b] l, List.reverse_concat,
    List.sublist_cons_iff]
  constructor
  · rintro (h | ⟨rest, heq, h⟩)
    · exact .inl h
    · obtain ⟨hb, ha⟩ := List.cons.inj heq
      rw [← ha] at h
      exact .inr ⟨List.mem_reverse.mp (List.singleton_sublist.mp h), hb⟩
  · rintro (h | ⟨ha, hb⟩)
    · exact .inl h
    · rw [hb]
      exact .inr ⟨[a], rfl, List.singleton_sublist.mpr (List.mem_reverse.mpr ha)⟩

/-- Only a call of the request itself can make it overtaken. -/
theorem overtaken_concat :
    Overtaken requests (calls ++ [(caller, call)]) who kind ↔
      Overtaken requests calls who kind ∨
        ((requests !who).deletes = true ∧ caller = who ∧ kind call = true ∧
          (!who, .commit) ∈ calls) := by
  constructor
  · rintro ⟨hdeletes, made, hkind, hsub⟩
    rcases pair_sublist_concat.mp hsub with hsub | ⟨hcommit, heq⟩
    · exact .inl ⟨hdeletes, made, hkind, hsub⟩
    · obtain ⟨rfl, rfl⟩ := Prod.mk.inj heq
      exact .inr ⟨hdeletes, rfl, hkind, hcommit⟩
  · rintro (⟨hdeletes, made, hkind, hsub⟩ | ⟨hdeletes, rfl, hkind, hcommit⟩)
    · exact ⟨hdeletes, made, hkind, pair_sublist_concat.mpr (.inl hsub)⟩
    · exact ⟨hdeletes, call, hkind, pair_sublist_concat.mpr (.inr ⟨hcommit, rfl⟩)⟩

theorem overtaken_concat_of (h : caller = who → kind call = false) :
    Overtaken requests (calls ++ [(caller, call)]) who kind ↔
      Overtaken requests calls who kind := by
  rw [overtaken_concat, or_iff_left]
  rintro ⟨-, hcaller, hkind, -⟩
  rw [h hcaller] at hkind
  cases hkind

theorem Awaits.concat (h : Awaits calls who kind) (hcall : caller = who → kind call = false) :
    Awaits (calls ++ [(caller, call)]) who kind := by
  intro made hmade
  rcases List.mem_append.mp hmade with hmade | hmade
  · exact h made hmade
  · obtain ⟨rfl, rfl⟩ := Prod.mk.inj (List.mem_singleton.mp hmade)
    exact hcall rfl

theorem Awaits.not_overtaken (h : Awaits calls who kind) : ¬ Overtaken requests calls who kind := by
  rintro ⟨-, made, hkind, hsub⟩
  have hmade : (who, made) ∈ calls := hsub.subset (by simp)
  rw [h made hmade] at hkind
  cases hkind

/-- The call that has been awaited comes before the other one's commit. -/
theorem Awaits.not_overtaken_concat (h : Awaits calls who kind)
    (hother : ¬ ((requests !who).deletes = true ∧ (!who, .commit) ∈ calls)) :
    ¬ Overtaken requests (calls ++ [(caller, call)]) who kind := by
  intro hovertaken
  rcases overtaken_concat.mp hovertaken with hovertaken | ⟨hdeletes, -, -, hcommit⟩
  · exact h.not_overtaken hovertaken
  · exact hother ⟨hdeletes, hcommit⟩

theorem awaits_of_silent (h : ∀ call, (who, call) ∉ calls) (kind : Call E → Bool) :
    Awaits calls who kind :=
  fun call hmade => absurd hmade (h call)

theorem Awaits.not_commit (h : Awaits calls who Call.isCommit) : (who, .commit) ∉ calls :=
  fun hmade => Bool.noConfusion (h .commit hmade)

theorem mem_concat_commit {calls : List (Bool × Call E)} :
    (who, .commit) ∈ calls ++ [(caller, .commit)] ↔ (who, .commit) ∈ calls ∨ who = caller := by
  simp

theorem mem_concat_of_ne {calls : List (Bool × Call E)} (h : call ≠ .commit) :
    (who, .commit) ∈ calls ++ [(caller, call)] ↔ (who, .commit) ∈ calls := by
  simp [List.mem_append, Prod.ext_iff, Ne.symm h]

end Order

/-! ## How a request settles -/

/-- What a request comes to, from what it comes to if nothing gets in its way, and from the calls
made so far. -/
inductive Settles (requests : Bool → Request) (calls : List (Bool × Call E)) (who : Bool)
    (unhindered : Except String (Except Problem Grant)) :
    Except String (Except Problem Grant) → Prop where
  /-- Nothing has got in its way. -/
  | clear (lookups : ¬ Overtaken requests calls who Call.isLookup)
      (changes : ¬ Overtaken requests calls who Call.isChange)
      (commits : (requests who).deletes = false → ¬ Overtaken requests calls who Call.isCommit) :
      Settles requests calls who unhindered unhindered
  /-- Its look-up has found nothing. -/
  | missing {outcome : Except String (Except Problem Grant)} (refused : Refused .notFound outcome)
      (lookups : Overtaken requests calls who Call.isLookup)
      (changes : Awaits calls who Call.isChange) (commits : Awaits calls who Call.isCommit) :
      Settles requests calls who unhindered outcome
  /-- The entity has gone behind the look-up. -/
  | failing {outcome : Except String (Except Problem Grant)}
      (refused : Refused .internalError outcome)
      (lookups : ¬ Overtaken requests calls who Call.isLookup)
      (overtaken : Overtaken requests calls who Call.isChange ∨
        (requests who).deletes = false ∧ Overtaken requests calls who Call.isCommit)
      (commits : (requests who).deletes = true → Awaits calls who Call.isCommit) :
      Settles requests calls who unhindered outcome

section Settles

variable {requests : Bool → Request} {calls : List (Bool × Call E)} {who caller : Bool}
  {call : Call E} {unhindered outcome : Except String (Except Problem Grant)}

theorem Settles.of_silent (h : ∀ call, (who, call) ∉ calls) :
    Settles requests calls who unhindered unhindered :=
  .clear (awaits_of_silent h _).not_overtaken (awaits_of_silent h _).not_overtaken
    fun _ => (awaits_of_silent h _).not_overtaken

/-- Calls of the other one, and calls of a request that has come through, do not matter any more. -/
theorem Settles.concat (h : Settles requests calls who unhindered outcome)
    (hcall : caller = who → call.isAside = true) :
    Settles requests (calls ++ [(caller, call)]) who unhindered outcome := by
  have haside (hcaller : caller = who) :
      call.isLookup = false ∧ call.isChange = false ∧ call.isCommit = false := by
    simpa [Call.isAside, and_assoc] using hcall hcaller
  have hlookup : Overtaken requests (calls ++ [(caller, call)]) who Call.isLookup ↔ _ :=
    overtaken_concat_of fun h => (haside h).1
  have hchange : Overtaken requests (calls ++ [(caller, call)]) who Call.isChange ↔ _ :=
    overtaken_concat_of fun h => (haside h).2.1
  have hcommit : Overtaken requests (calls ++ [(caller, call)]) who Call.isCommit ↔ _ :=
    overtaken_concat_of fun h => (haside h).2.2
  cases h with
  | clear lookups changes commits =>
    exact .clear (mt hlookup.mp lookups) (mt hchange.mp changes)
      fun hdeletes => mt hcommit.mp (commits hdeletes)
  | missing refused lookups changes commits =>
    exact .missing refused (hlookup.mpr lookups) (changes.concat fun h => (haside h).2.1)
      (commits.concat fun h => (haside h).2.2)
  | failing refused lookups overtaken commits =>
    refine .failing refused (mt hlookup.mp lookups) ?_
      fun hdeletes => (commits hdeletes).concat fun h => (haside h).2.2
    rw [hchange, hcommit]
    exact overtaken

/-! ## Why a request is refused -/

variable (h : Settles requests calls who unhindered outcome)
include h

theorem Settles.missing_iff (hplain : Plain unhindered) :
    Refused .notFound outcome ↔ Overtaken requests calls who Call.isLookup := by
  cases h with
  | clear lookups changes commits => exact iff_of_false hplain.1 lookups
  | missing refused lookups changes commits => exact iff_of_true refused lookups
  | failing refused lookups overtaken commits =>
    exact iff_of_false (fun h => absurd (h.unique refused) (by decide)) lookups

theorem Settles.failing_iff (hplain : Plain unhindered) :
    Refused .internalError outcome ↔ Overtaken requests calls who Call.isChange ∨
      (requests who).deletes = false ∧ Overtaken requests calls who Call.isCommit := by
  cases h with
  | clear lookups changes commits =>
    refine iff_of_false hplain.2 ?_
    rintro (hchange | ⟨hdeletes, hcommit⟩)
    · exact changes hchange
    · exact commits hdeletes hcommit
  | missing refused lookups changes commits =>
    refine iff_of_false (fun h => absurd (h.unique refused) (by decide)) ?_
    rintro (hchange | ⟨-, hcommit⟩)
    · exact changes.not_overtaken hchange
    · exact commits.not_overtaken hcommit
  | failing refused lookups overtaken commits => exact iff_of_true refused overtaken

theorem Settles.eq_unhindered (hmissing : ¬ Refused .notFound outcome)
    (hfailing : ¬ Refused .internalError outcome) : outcome = unhindered := by
  cases h with
  | clear lookups changes commits => rfl
  | missing refused lookups changes commits => exact absurd refused hmissing
  | failing refused lookups overtaken commits => exact absurd refused hfailing

/-- A removal that is committed is told so. -/
theorem Settles.eq_of_commit (hdeletes : (requests who).deletes = true)
    (hcommit : (who, .commit) ∈ calls) : outcome = unhindered := by
  cases h with
  | clear lookups changes commits => rfl
  | missing refused lookups changes commits => exact absurd hcommit commits.not_commit
  | failing refused lookups overtaken commits =>
    exact absurd hcommit (commits hdeletes).not_commit

/-- A request that is refused for want of the entity comes behind the other one's commit. -/
theorem Settles.committed_of_ne (hne : outcome ≠ unhindered) :
    (requests !who).deletes = true ∧ (!who, .commit) ∈ calls := by
  have hfrom {kind : Call E → Bool} (h : Overtaken requests calls who kind) :
      (requests !who).deletes = true ∧ (!who, .commit) ∈ calls := by
    obtain ⟨hdeletes, made, -, hsub⟩ := h
    exact ⟨hdeletes, hsub.subset (by simp)⟩
  cases h with
  | clear lookups changes commits => exact absurd rfl hne
  | missing refused lookups changes commits => exact hfrom lookups
  | failing refused lookups overtaken commits =>
    rcases overtaken with hchange | ⟨-, hcommit⟩
    · exact hfrom hchange
    · exact hfrom hcommit

end Settles

end Race

end ResourceApi
