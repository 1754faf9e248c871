import ResourceApi.Proofs.Service.Gating

/-!
# The calls of a request

What the gates of a request mean for the repository: nobody is asked before the identifier and the
policy are checked, a transaction is opened at most once and behind all other checks, and an opened
one is changed at most once, ended and released.

## Main definitions

- `Call.isChange`, `Call.opens`, `Call.isInside` — what a call has to do with a transaction
- `Scope.endings` — the ways in which a transaction ends
- `Service.Gated` — how a request ends and what it calls
-/

namespace ResourceApi

variable {E D σ α : Type}

namespace Call

/-- Whether a call makes a change inside a transaction. -/
def isChange : Call E → Bool
  | .insert _ | .update _ | .updatePartial _ | .delete _ => true
  | _ => false

/-- Whether a call opens a transaction. -/
def opens : Call E → Bool
  | .begin => true
  | _ => false

/-- Whether a call is one on an open transaction. -/
def isInside (call : Call E) : Bool :=
  call.isChange ||
    match call with
    | .commit | .rollback | .release => true
    | _ => false

end Call

/-- The ways in which the work of a transaction may be followed by the end of it. -/
def Scope.endings : List (List (Call E)) := [[.commit], [.commit, .rollback], [.rollback]]

namespace Service

variable (s : Service E D) (answer : Script.Answerer E σ)

/-- How a request ends and what it calls. -/
structure Gated (x : σ) (request : Request) : Prop where
  /-- The first gate that stops the request decides how it ends; if none does, it is granted. -/
  outcome :
    match Gate.all.findSome? (s.stop? answer x request) with
    | some (.refused problem) => ((s.handle request).run answer x).outcome = .ok (.error problem)
    | some (.crashed message) => ((s.handle request).run answer x).outcome = .error message
    | none => ∃ grant, ((s.handle request).run answer x).outcome = .ok (.ok grant)
  /-- A request that is stopped for its identifier or by the policy calls nothing. -/
  silent : s.stop? answer x request .identifier ≠ none ∨ s.stop? answer x request .policy ≠ none →
    ((s.handle request).run answer x).calls = []
  /-- At most one transaction is opened. -/
  once : ((s.handle request).run answer x).calls.countP Call.opens ≤ 1
  /-- A transaction is opened only behind all earlier gates. -/
  behind : .begin ∈ ((s.handle request).run answer x).calls →
    ∀ gate ∈ Gate.beforeTransaction, s.stop? answer x request gate = none
  /-- An opened transaction is changed once, or not at all if the making of the entity crashes;
  then it is ended in one of three ways, and released last. Only a transaction that lets the request
  through ends with the commit. -/
  finished : .begin ∈ ((s.handle request).run answer x).calls →
    ∃ change, s.change? answer x request = some change ∧
      (∀ call, change = .ok call → call.isChange) ∧
      match (answer .begin (s.looked answer x request)).1 with
      | .returned _ => ∃ ending ∈ Scope.endings,
          ((s.handle request).run answer x).calls =
            (s.lookup? request).toList ++
              .begin :: (Work.changeCalls change ++ ending ++ [.release]) ∧
          (ending = [.commit] ↔ s.stop? answer x request .transaction = none)
      | _ => ((s.handle request).run answer x).calls = (s.lookup? request).toList ++ [.begin]
  /-- Without a transaction there are no calls on one. -/
  untouched : .begin ∉ ((s.handle request).run answer x).calls →
    ∀ call ∈ ((s.handle request).run answer x).calls, call.isInside = false

/-! ## The calls of a request -/

theorem lookup?_outside {request : Request} {call : Call E} (h : s.lookup? request = some call) :
    call.opens = false ∧ call.isInside = false := by
  cases request with
  | create body accept => cases h
  | list pairs accept =>
    obtain ⟨query, -, rfl⟩ := Option.map_eq_some_iff.mp h
    exact ⟨rfl, rfl⟩
  | _ =>
    cases h
    exact ⟨rfl, rfl⟩

theorem lookups_outside {request : Request} {call : Call E}
    (h : call ∈ (s.lookup? request).toList) : call.opens = false ∧ call.isInside = false :=
  s.lookup?_outside (Option.mem_toList.mp h)

variable {answer} {x : σ} {request : Request}

theorem made_isChange {made : Except String E} {save : E → Call E}
    (hsave : ∀ e, (save e).isChange) {call : Call E} (h : made.map save = .ok call) :
    call.isChange := by
  cases made with
  | error message => cases h
  | ok e =>
    cases h
    exact hsave e

theorem change?_isChange {change : Except String (Call E)}
    (h : s.change? answer x request = some change) {call : Call E} (hcall : change = .ok call) :
    call.isChange := by
  cases request with
  | list pairs accept => cases h
  | get id accept => cases h
  | create body accept =>
    obtain ⟨document, -, rfl⟩ := Option.map_eq_some_iff.mp h
    exact made_isChange (fun _ => rfl) hcall
  | update id body =>
    obtain ⟨document, -, rfl⟩ := Option.map_eq_some_iff.mp h
    exact made_isChange (fun _ => rfl) hcall
  | updatePartial id body =>
    obtain ⟨existing, -, h⟩ := Option.bind_eq_some_iff.mp h
    obtain ⟨document, -, rfl⟩ := Option.map_eq_some_iff.mp h
    exact made_isChange (fun _ => rfl) hcall
  | delete id =>
    cases h
    cases hcall
    rfl

/-- The calls of a transaction that opens: the change, one of the endings, and the release. -/
theorem transactCalls_of_returned {w : Work E σ α} {y : σ} {value : Unit}
    (hbegin : (answer .begin y).1 = .returned value) (operation : Operation) (id : Option Int) :
    ∃ ending ∈ Scope.endings,
      transactCalls answer w y = .begin :: (w.calls ++ ending ++ [.release]) ∧
      (ending = [.commit] ↔ (s.transactVerdict answer operation id w y).stop? = none) := by
  unfold transactCalls transactVerdict
  rw [hbegin]
  dsimp only [judge, bind, Except.bind]
  -- Work that fails or crashes is rolled back at once, and so is a commit that does not return.
  cases (w.act (answer .begin y).2).1 with
  | failed failure =>
    exact ⟨[.rollback], by simp [Scope.endings], by simp [Scope.closing],
      iff_of_false (by simp) (Option.some_ne_none _)⟩
  | crashed message =>
    exact ⟨[.rollback], by simp [Scope.endings], by simp [Scope.closing],
      iff_of_false (by simp) (Option.some_ne_none _)⟩
  | returned value =>
    cases (answer .commit (w.act (answer .begin y).2).2).1 with
    | failed failure =>
      exact ⟨[.commit, .rollback], by simp [Scope.endings], by simp [Scope.closing],
        iff_of_false (by simp) (Option.some_ne_none _)⟩
    | crashed message =>
      exact ⟨[.commit, .rollback], by simp [Scope.endings], by simp [Scope.closing],
        iff_of_false (by simp) (Option.some_ne_none _)⟩
    | returned done =>
      exact ⟨[.commit], by simp [Scope.endings], by simp [Scope.closing], iff_of_true rfl rfl⟩

theorem transactCalls_of_not_returned {w : Work E σ α} {y : σ}
    (hbegin : ∀ value, (answer .begin y).1 ≠ .returned value) :
    transactCalls answer w y = [.begin] := by
  unfold transactCalls
  cases h : (answer .begin y).1 with
  | returned value => exact absurd h (hbegin value)
  | failed failure => rfl
  | crashed message => rfl

/-- **The calls of a request**: behind all gates in front of the transaction they are the look-up
and those of the transaction, and otherwise the look-up at most. -/
theorem calls_cases (h : Calm answer) (request : Request) (x : σ) :
    ((∀ gate ∈ Gate.beforeTransaction, s.stop? answer x request gate = none) ∧
        ((s.handle request).run answer x).calls =
          (s.lookup? request).toList ++ s.gateCalls answer x request .transaction) ∨
      ((s.handle request).run answer x).calls = [] ∨
      ((∀ gate ∈ Gate.checks, s.stop? answer x request gate = none) ∧
        ((s.handle request).run answer x).calls = (s.lookup? request).toList) := by
  obtain ⟨grant, hcourse⟩ := s.stages_follow answer h request x
  have hcalls : ((s.handle request).run answer x).calls =
      (Course.through grant x (Gate.all.map (s.passage answer x request))).calls :=
    congrArg Course.calls hcourse
  rw [hcalls, Gate.all, List.map_append]
  -- Cut the gates in front of the transaction, and again behind those that call nothing.
  by_cases hready : ∀ gate ∈ Gate.beforeTransaction, s.stop? answer x request gate = none
  · refine .inl ⟨hready, ?_⟩
    have hpassed := (s.passed_iff answer Gate.beforeTransaction).mpr hready
    obtain ⟨y, hy⟩ := Course.calls_through_of_passed hpassed grant x
      ([Gate.transaction, .answer].map (s.passage answer x request))
    -- Behind the transaction nothing is called, so its calls are the last ones.
    have hlast : ∀ p ∈ [s.passage answer x request .answer], p.calls = [] := by
      simp [passage, gateCalls]
    have hfront : (Gate.beforeTransaction.map (s.passage answer x request)).flatMap
        Passage.calls = (s.lookup? request).toList := by
      simp [Gate.beforeTransaction, Gate.checks, passage, gateCalls]
    rw [hy, hfront]
    exact congrArg (_ ++ ·) (Course.calls_through_cons hlast grant y)
  · refine .inr ?_
    have hstopped := mt (s.passed_iff answer Gate.beforeTransaction).mp hready
    rw [Course.calls_through_of_stopped hstopped, Gate.beforeTransaction, List.map_append]
    have hsilent : ∀ p ∈ Gate.checks.map (s.passage answer x request), p.calls = [] := by
      simp [Gate.checks, passage, gateCalls]
    by_cases hchecks : ∀ gate ∈ Gate.checks, s.stop? answer x request gate = none
    · refine .inr ⟨hchecks, ?_⟩
      have hpassed := (s.passed_iff answer Gate.checks).mpr hchecks
      obtain ⟨y, hy⟩ := Course.calls_through_of_passed hpassed grant x
        ([Gate.existence, .document, .agreement].map (s.passage answer x request))
      have hrest : ∀ p ∈ [Gate.document, .agreement].map (s.passage answer x request),
          p.calls = [] := by
        simp [passage, gateCalls]
      rw [hy, List.flatMap_eq_nil_iff.mpr hsilent]
      exact Course.calls_through_cons hrest grant y
    · have hstopped := mt (s.passed_iff answer Gate.checks).mp hchecks
      rw [Course.calls_through_of_stopped hstopped]
      exact .inl (Course.calls_through_of_silent hsilent grant x)

/-- A request that opens a transaction has passed all earlier gates, and its calls are the look-up
and those of the transaction. -/
theorem calls_of_begin (h : Calm answer)
    (hbegin : .begin ∈ ((s.handle request).run answer x).calls) :
    (∀ gate ∈ Gate.beforeTransaction, s.stop? answer x request gate = none) ∧
      ∃ change, s.change? answer x request = some change ∧
        ((s.handle request).run answer x).calls = (s.lookup? request).toList ++
          transactCalls answer (.ofChange answer change) (s.looked answer x request) := by
  have hlookups : Call.begin ∉ (s.lookup? request).toList := fun hin =>
    absurd (s.lookups_outside hin).1 (by simp [Call.opens])
  rcases s.calls_cases h request x with ⟨hready, hcalls⟩ | hcalls | ⟨-, hcalls⟩
  · refine ⟨hready, ?_⟩
    cases hchange : s.change? answer x request with
    | some change =>
      refine ⟨change, rfl, ?_⟩
      simpa only [gateCalls, hchange] using hcalls
    | none =>
      -- A request that changes nothing only looks up, and no look-up opens a transaction.
      simp only [gateCalls, hchange, List.append_nil] at hcalls
      rw [hcalls] at hbegin
      exact absurd hbegin hlookups
  · rw [hcalls] at hbegin
    exact absurd hbegin List.not_mem_nil
  · rw [hcalls] at hbegin
    exact absurd hbegin hlookups

/-- A request that opens no transaction makes no calls but the look-up. -/
theorem calls_of_no_begin (h : Calm answer)
    (hbegin : .begin ∉ ((s.handle request).run answer x).calls) {call : Call E}
    (hcall : call ∈ ((s.handle request).run answer x).calls) :
    call ∈ (s.lookup? request).toList := by
  rcases s.calls_cases h request x with ⟨-, hcalls⟩ | hcalls | ⟨-, hcalls⟩
  · cases hchange : s.change? answer x request with
    | none => simpa only [hcalls, gateCalls, hchange, List.append_nil] using hcall
    | some change =>
      refine absurd ?_ hbegin
      simp only [hcalls, gateCalls, hchange, transactCalls]
      cases (answer .begin (s.looked answer x request)).1 <;> simp
  · rw [hcalls] at hcall
    exact absurd hcall List.not_mem_nil
  · rwa [hcalls] at hcall

theorem countP_opens_changeCalls {change : Except String (Call E)}
    (h : ∀ call, change = .ok call → call.isChange) :
    (Work.changeCalls change).countP Call.opens = 0 := by
  cases change with
  | error message => rfl
  | ok call =>
    have hcall : call.isChange := h call rfl
    cases call <;> first | rfl | cases hcall

theorem countP_opens_ending {ending : List (Call E)} (h : ending ∈ Scope.endings) :
    ending.countP Call.opens = 0 := by
  simp only [Scope.endings, List.mem_cons, List.not_mem_nil, or_false] at h
  rcases h with rfl | rfl | rfl <;> rfl

variable (answer) in
include s in
/-- A transaction is opened once. -/
theorem countP_opens_transactCalls {change : Except String (Call E)}
    (h : ∀ call, change = .ok call → call.isChange) (y : σ) :
    (transactCalls answer (.ofChange answer change) y).countP Call.opens = 1 := by
  cases hbegin : (answer .begin y).1 with
  | returned value =>
    obtain ⟨ending, hending, hcalls, -⟩ := s.transactCalls_of_returned hbegin .list none
    have hchange : (Work.ofChange answer change).calls.countP Call.opens = 0 :=
      countP_opens_changeCalls h
    rw [hcalls, List.countP_cons_of_pos rfl, List.countP_append, List.countP_append, hchange,
      countP_opens_ending hending]
    rfl
  | failed failure =>
    rw [transactCalls_of_not_returned (by simp [hbegin])]
    rfl
  | crashed message =>
    rw [transactCalls_of_not_returned (by simp [hbegin])]
    rfl

/-- The gates of a request, over any repository whose rollbacks and releases do not crash. -/
theorem gated (h : Calm answer) (x : σ) (request : Request) : s.Gated answer x request where
  outcome := by
    obtain ⟨grant, hcourse⟩ := s.stages_follow answer h request x
    have houtcome : ((s.handle request).run answer x).outcome =
        (Course.through grant x (Gate.all.map (s.passage answer x request))).outcome :=
      congrArg Course.outcome hcourse
    rw [Course.outcome_through, List.findSome?_map] at houtcome
    change _ = Course.ending grant (Gate.all.findSome? (s.stop? answer x request)) at houtcome
    rw [houtcome]
    cases Gate.all.findSome? (s.stop? answer x request) with
    | none => exact ⟨grant, rfl⟩
    | some stop => cases stop <;> rfl
  silent := by
    intro hstop
    -- Both gates are among the checks, so neither the look-up nor the transaction is reached.
    have hnot : ∀ gates : List Gate, Gate.identifier ∈ gates → Gate.policy ∈ gates →
        ¬ ∀ gate ∈ gates, s.stop? answer x request gate = none := by
      intro gates hidentifier hpolicy hall
      rcases hstop with hne | hne
      · exact hne (hall _ hidentifier)
      · exact hne (hall _ hpolicy)
    rcases s.calls_cases h request x with ⟨hready, -⟩ | hcalls | ⟨hchecks, -⟩
    · exact absurd hready (hnot _ (by decide) (by decide))
    · exact hcalls
    · exact absurd hchecks (hnot _ (by decide) (by decide))
  once := by
    by_cases hbegin : .begin ∈ ((s.handle request).run answer x).calls
    · obtain ⟨-, change, hchange, hcalls⟩ := s.calls_of_begin h hbegin
      have hlookups : (s.lookup? request).toList.countP Call.opens = 0 := by
        rw [List.countP_eq_zero]
        intro call hin
        simp [(s.lookups_outside hin).1]
      have hone := s.countP_opens_transactCalls answer
        (fun _ => s.change?_isChange hchange) (s.looked answer x request)
      rw [hcalls, List.countP_append]
      omega
    · have hnone : ((s.handle request).run answer x).calls.countP Call.opens = 0 := by
        rw [List.countP_eq_zero]
        intro call hin
        simp [(s.lookups_outside (s.calls_of_no_begin h hbegin hin)).1]
      omega
  behind hbegin := (s.calls_of_begin h hbegin).1
  finished := by
    intro hbegin
    obtain ⟨-, change, hchange, hcalls⟩ := s.calls_of_begin h hbegin
    refine ⟨change, hchange, fun call => s.change?_isChange hchange, ?_⟩
    have hstop : s.stop? answer x request .transaction =
        (s.transactVerdict answer request.operation request.id? (.ofChange answer change)
          (s.looked answer x request)).stop? := by
      simp only [stop?, hchange, Option.bind_some]
    rw [hcalls, hstop]
    cases hreply : (answer .begin (s.looked answer x request)).1 with
    | returned value =>
      obtain ⟨ending, hending, heq, hiff⟩ :=
        s.transactCalls_of_returned hreply request.operation request.id?
      exact ⟨ending, hending, congrArg _ heq, hiff⟩
    | failed failure =>
      exact congrArg _ (transactCalls_of_not_returned (by simp [hreply]))
    | crashed message =>
      exact congrArg _ (transactCalls_of_not_returned (by simp [hreply]))
  untouched := by
    intro hbegin call hin
    exact (s.lookups_outside (s.calls_of_no_begin h hbegin hin)).2

end Service

end ResourceApi
