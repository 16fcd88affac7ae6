import Failsafe.Proofs.Session.Parameters

/-!
# Slippage is retried once

Nothing counts how often a run has retried after slippage. A retry puts a parameter into the run (`slippageKey`), every
call of the run is made with the parameters of the run, the incident of a failure carries them, and the policy does not
retry a slippage whose incident has the parameter.

So it comes down to what one attempt does to this parameter (`slippage_of_goesOn`): a slippage that is retried finds it
missing and sets it, and any other failure that is retried leaves it alone. Once it is set it stays as it is
(`Unfolds.slippage_stays`), and slippage is not retried again.
-/

namespace Failsafe

open Executor

namespace Session

/-! ## What one attempt does -/

namespace Attempt

/-- The attempt failed with slippage. -/
def Slips (a : Attempt) : Prop :=
  ∃ failure, a.step.result = .error failure ∧ (a.incident failure).category = .slippageExceeded

variable {a : Attempt} {failure : Failure} {limit : Nat}

/-- The policy knows from the incident whether the tolerance was widened. -/
theorem slippageWidened_incident (a : Attempt) (failure : Failure) :
    Policy.slippageWidened (a.incident failure) = (a.run.params.get? slippageKey).isSome := by
  rw [← Fields.contains_eq]
  unfold Policy.slippageWidened incident Executor.incident Incident.withRetryCount RetryLimits.incident
  dsimp only
  cases hparams : a.run.params with
  | nil => rfl
  | cons field fields => rfl

theorem action_of_slips (hactive : a.answered.executor.breaker.active = false)
    (hcategory : (a.incident failure).category = .slippageExceeded) :
    a.action failure = if (a.run.params.get? slippageKey).isSome then .giveUp
      else (Action.retryAfter slippageDelay).adjusting slippageKey slippageFactor := by
  unfold action Policy.decide
  rw [if_neg (by simp [hactive]), hcategory]
  dsimp only
  rw [slippageWidened_incident]

/-- What an attempt that is retried does to the parameter. -/
theorem slippage_of_goesOn (h : a.goesOn limit failure) :
    if (a.incident failure).category = .slippageExceeded then
      a.run.params.get? slippageKey = none ∧
        (Executor.advance a.run (a.action failure)).params.get? slippageKey = some (.ofFloat slippageFactor)
    else (Executor.advance a.run (a.action failure)).params.get? slippageKey = a.run.params.get? slippageKey := by
  split
  next hcategory =>
    have hretry := h.1
    rw [action_of_slips (a.inactive_of_goesOn h) hcategory] at hretry
    refine ⟨?_, ?_⟩
    · cases hwidened : a.run.params.get? slippageKey with
      | none => rfl
      | some value =>
        rw [hwidened] at hretry
        exact absurd hretry (by simp [Action.giveUp])
    · rw [get?_advance h, adjusted?_slippage_of_mem List.mem_cons_self hcategory, Option.some_or]
  next hcategory =>
    have hnone : adjusted? [a.incident failure] slippageKey = none := by
      refine adjusted?_slippage_of_forall fun incident hincident => ?_
      rw [List.mem_singleton.mp hincident]
      exact hcategory
    rw [get?_advance h, hnone, Option.none_or]

end Attempt

/-! ## Retries and calls -/

variable {deadline : Option Nat} {limit : Nat} {s s' : Session} {run : Run} {script : CallScript} {a : Attempt}
  {attempts : List Attempt} {calls : List Call} {outcome : RunOutcome}

/-- An attempt that another one follows was answered while the breaker was inactive. -/
theorem Unfolds.inactive_of_lt (h : Unfolds deadline limit s run script attempts s' calls outcome) {i j : Nat}
    {later : Attempt} (hlater : attempts[j]? = some later) (hij : i < j) (ha : attempts[i]? = some a) :
    a.answered.executor.breaker.active = false := by
  have hlength := (List.getElem?_eq_some_iff.mp (h.call_of_attempt j later hlater).2).1
  have hnext : calls[i + 1]? = some calls[i + 1] := List.getElem?_eq_getElem (by omega)
  obtain ⟨a', failure, ha', -, hgoes, -⟩ := h.next_call.2 i _ hnext
  obtain rfl := Option.some.inj (ha.symm.trans ha')
  exact a.inactive_of_goesOn hgoes

/-! ## The parameter through a run -/

/-- From one call to the next the parameter changes only if slippage is retried. -/
theorem Unfolds.slippage_step (h : Unfolds deadline limit s run script attempts s' calls outcome) {i : Nat}
    {next : Call} (hnext : calls[i + 1]? = some next) :
    ∃ a, attempts[i]? = some a ∧ calls[i]? = some a.call ∧
      (a.Slips → a.call.params.get? slippageKey = none ∧
        next.params.get? slippageKey = some (.ofFloat slippageFactor)) ∧
      (¬ a.Slips → next.params.get? slippageKey = a.call.params.get? slippageKey) := by
  obtain ⟨a, failure, ha, hfailed, hgoes, hparams⟩ := h.next_call.2 i next hnext
  obtain ⟨-, hcall⟩ := h.call_of_attempt i a ha
  have hstep := Attempt.slippage_of_goesOn hgoes
  rw [← hparams] at hstep
  refine ⟨a, ha, hcall, ?_, ?_⟩
  · rintro ⟨failure', hfailed', hcategory⟩
    obtain rfl := Except.error.inj (hfailed.symm.trans hfailed')
    rwa [if_pos hcategory] at hstep
  · intro hslips
    rwa [if_neg fun hcategory => hslips ⟨failure, hfailed, hcategory⟩] at hstep

/-- Once the parameter is there it stays as it is. -/
theorem Unfolds.slippage_stays (h : Unfolds deadline limit s run script attempts s' calls outcome) {i j : Nat}
    {call later : Call} {value : Json} (hcall : calls[i]? = some call)
    (hvalue : call.params.get? slippageKey = some value) (hij : i ≤ j) (hlater : calls[j]? = some later) :
    later.params.get? slippageKey = some value := by
  -- By induction on the number of calls in between.
  induction hij generalizing later with
  | refl =>
    obtain rfl := Option.some.inj (hcall.symm.trans hlater)
    exact hvalue
  | step hij ih =>
    obtain ⟨a, -, hbefore, hslips, hnot⟩ := h.slippage_step hlater
    have hset := ih hbefore
    -- A slippage would not have been retried.
    have hother : ¬ a.Slips := by
      intro hslip
      rw [(hslips hslip).1] at hset
      exact absurd hset (by simp)
    rw [hnot hother]
    exact hset

/-- As long as no slippage is retried the parameter does not come. -/
theorem Unfolds.slippage_missing (h : Unfolds deadline limit s run script attempts s' calls outcome)
    (hrun : run.params.get? slippageKey = none) {i : Nat} {call : Call} (hcall : calls[i]? = some call)
    (hfirst : ∀ j b, j < i → attempts[j]? = some b → ¬ b.Slips) : call.params.get? slippageKey = none := by
  induction i generalizing call with
  | zero =>
    obtain ⟨first, hcall', hparams⟩ := h.next_call.1
    obtain rfl := Option.some.inj (hcall'.symm.trans hcall)
    rw [hparams]
    exact hrun
  | succ i ih =>
    obtain ⟨a, ha, hbefore, -, hnot⟩ := h.slippage_step hcall
    rw [hnot (hfirst i a (Nat.lt_succ_self i) ha)]
    exact ih hbefore fun j b hj hb => hfirst j b (Nat.lt_succ_of_lt hj) hb

/-- A slippage that is followed by another call has set the parameter. -/
theorem Unfolds.slippage_retried (h : Unfolds deadline limit s run script attempts s' calls outcome) {i : Nat}
    (ha : attempts[i]? = some a) (hslips : a.Slips) (hfollowed : i + 1 < calls.length) :
    a.call.params.get? slippageKey = none ∧
      calls[i + 1].params.get? slippageKey = some (.ofFloat slippageFactor) := by
  obtain ⟨a', ha', -, hslips', -⟩ := h.slippage_step (List.getElem?_eq_getElem hfollowed)
  obtain rfl := Option.some.inj (ha.symm.trans ha')
  exact hslips' hslips

/-- No two slippages are followed by another call. -/
theorem Unfolds.slippage_once (h : Unfolds deadline limit s run script attempts s' calls outcome) {i j : Nat}
    {b : Attempt} (ha : attempts[i]? = some a) (hb : attempts[j]? = some b) (hslips : a.Slips) (hslips' : b.Slips)
    (hfollowed : i + 1 < calls.length) (hfollowed' : j + 1 < calls.length) : ¬ i < j := by
  intro hij
  have hset := (h.slippage_retried ha hslips hfollowed).2
  have hmissing := (h.slippage_retried hb hslips' hfollowed').1
  rw [h.slippage_stays (List.getElem?_eq_getElem hfollowed) hset hij (h.call_of_attempt j b hb).2] at hmissing
  exact absurd hmissing (by simp)

/-- Where the parameter is there from the beginning, no slippage is followed by another call. -/
theorem Unfolds.not_followed_of_set (h : Unfolds deadline limit s run script attempts s' calls outcome) {value : Json}
    (hrun : run.params.get? slippageKey = some value) {i : Nat} (ha : attempts[i]? = some a) (hslips : a.Slips) :
    ¬ i + 1 < calls.length := by
  intro hfollowed
  obtain ⟨first, hfirst, hparams⟩ := h.next_call.1
  rw [← hparams] at hrun
  have hstays := h.slippage_stays hfirst hrun (Nat.zero_le i) (h.call_of_attempt i a ha).2
  rw [(h.slippage_retried ha hslips hfollowed).1] at hstays
  exact absurd hstays (by simp)

/-- The first slippage is retried if the policy is asked at all and another attempt is allowed. -/
theorem Unfolds.goesOn_of_slips (h : Unfolds deadline limit s run script attempts s' calls outcome)
    (hrun : run.params.get? slippageKey = none) {i : Nat} {failure : Failure} (ha : attempts[i]? = some a)
    (hcategory : (a.incident failure).category = .slippageExceeded)
    (hlimit : run.attempt + i + 1 < limit) (hactive : a.answered.executor.breaker.active = false)
    (hothers : ∀ j b, j < i → attempts[j]? = some b → b.Slips → b.answered.executor.breaker.active = true) :
    a.goesOn limit failure := by
  obtain ⟨hattempt, hcall⟩ := h.call_of_attempt i a ha
  have hfirst : ∀ j b, j < i → attempts[j]? = some b → ¬ b.Slips := by
    intro j b hj hb hslips
    have hinactive := h.inactive_of_lt ha hj hb
    rw [hothers j b hj hb hslips] at hinactive
    exact absurd hinactive (by simp)
  have hmissing : a.run.params.get? slippageKey = none := h.slippage_missing hrun hcall hfirst
  refine ⟨?_, by omega⟩
  rw [Attempt.action_of_slips hactive hcategory, hmissing]
  rfl

/-! ## Runs -/

/-- **Slippage is retried once.** In every run, whatever its calls do:

* at most one failure with slippage is followed by another call;
* none is if the caller has set the parameter;
* if the caller has not, the first failure with slippage that is not on the last attempt allowed, and that comes while
  the breaker is inactive, is followed by another call, unless the run is dropped while it waits. The parameters of that
  call, and of every later one, have the wider tolerance. -/
theorem run_slippage (s : Session) (deadline : Option Nat) (request : RunRequest) :
    let attempts := s.attempts deadline request
    let calls := (s.run deadline request).2.1
    (∀ i j a b, attempts[i]? = some a → attempts[j]? = some b → a.Slips → b.Slips →
      i + 1 < calls.length → j + 1 < calls.length → i = j) ∧
    (request.params.contains slippageKey = true →
      ∀ i a, attempts[i]? = some a → a.Slips → ¬ i + 1 < calls.length) ∧
    (request.params.contains slippageKey = false →
      ∀ i a, attempts[i]? = some a → a.Slips → i + 1 < max 1 s.executor.limits.maxRetries.toNat →
        a.answered.executor.breaker.active = false →
        (∀ j b, j < i → attempts[j]? = some b → b.Slips → b.answered.executor.breaker.active = true) →
        (i + 1 < calls.length ∨
          deadline ≠ none ∧ (s.run deadline request).2.2 = .cancelled ∧ calls.length = i + 1) ∧
        ∀ k call, i < k → calls[k]? = some call →
          call.params.get? slippageKey = some (.ofFloat slippageFactor)) := by
  dsimp only
  cases hbegin : s.executor.breaker.active with
  | true =>
    obtain ⟨-, hattempts⟩ := run_active hbegin deadline request
    rw [hattempts]
    exact ⟨fun i j a b ha => absurd ha (by simp), fun _ i a ha => absurd ha (by simp),
      fun _ i a ha => absurd ha (by simp)⟩
  | false =>
    have h := run_unfolds hbegin deadline request
    refine ⟨?_, ?_, ?_⟩
    · intro i j a b ha hb hslips hslips' hfollowed hfollowed'
      have hij := h.slippage_once ha hb hslips hslips' hfollowed hfollowed'
      have hji := h.slippage_once hb ha hslips' hslips hfollowed' hfollowed
      omega
    · intro hcontains i a ha hslips
      rw [Fields.contains_eq, Option.isSome_iff_exists] at hcontains
      obtain ⟨value, hvalue⟩ := hcontains
      exact h.not_followed_of_set hvalue ha hslips
    · intro hcontains i a ha hslips hlimit hactive hothers
      have hmissing : request.params.get? slippageKey = none := by
        rw [Fields.contains_eq] at hcontains
        simpa using hcontains
      obtain ⟨failure, hfailed, hcategory⟩ := hslips
      have hgoes := h.goesOn_of_slips hmissing ha hcategory (by rw [maxAttempts_eq]; simpa using hlimit) hactive hothers
      refine ⟨?_, ?_⟩
      · rcases h.called_again i a failure ha hfailed hgoes with hlt | ⟨houtcome, hlength⟩
        · exact .inl hlt
        · refine .inr ⟨?_, houtcome, hlength⟩
          rintro rfl
          have hpos : 0 < s.executor.maxAttempts := by
            rw [maxAttempts_eq]
            omega
          exact (h.completes hpos).ne_cancelled houtcome
      · intro k call hik hcall
        have hfollowed : i + 1 < (s.run deadline request).2.1.length := by
          have hk := (List.getElem?_eq_some_iff.mp hcall).1
          omega
        have hset := (h.slippage_retried ha ⟨failure, hfailed, hcategory⟩ hfollowed).2
        exact h.slippage_stays (List.getElem?_eq_getElem hfollowed) hset hik hcall

/-- An operation that fails with slippage once. -/
def slipping (params : Fields) : RunRequest :=
  ⟨"swap", params,
    ⟨[{ takes := 0, side := [], result := .error (.plain "slippage exceeded") }],
      { takes := 0, side := [], result := .ok .null }⟩, none⟩

/-- The first attempt of that operation in a session that has seen nothing yet. -/
def slippedAttempt (params : Fields) : Attempt :=
  ⟨idle, ⟨"swap", params, 0⟩, (slipping params).script.next.1, (idle.sleepAmong none 0 []).1⟩

theorem slips_slippedAttempt (params : Fields) : (slippedAttempt params).Slips := by
  refine ⟨.plain "slippage exceeded", rfl, ?_⟩
  show (classify .other "slippage exceeded").1 = .slippageExceeded
  decide +kernel

theorem attempts_slipping (params : Fields) :
    (idle.attempts none (slipping params))[0]? = some (slippedAttempt params) := by
  have hanswers : Answers none idle ⟨"swap", params, 0⟩ (slipping params).script (slippedAttempt params) :=
    ⟨rfl, rfl, rfl, _, rfl, rfl⟩
  exact attemptsFrom_zero hanswers

/-- The operation is called again with the wider tolerance, unless the caller has set a tolerance. -/
theorem run_slippage_slipping :
    (∃ call, (idle.run none (slipping [])).2.1[1]? = some call ∧
      call.params.get? slippageKey = some (.ofFloat slippageFactor)) ∧
    ¬ 1 < (idle.run none (slipping [(slippageKey, .ofNat 2)])).2.1.length := by
  constructor
  · obtain ⟨-, -, hretried⟩ := run_slippage idle none (slipping [])
    obtain ⟨hfollowed, hparams⟩ := hretried rfl 0 (slippedAttempt []) (attempts_slipping []) (slips_slippedAttempt [])
      (by decide) rfl (fun j b hj => absurd hj (Nat.not_lt_zero j))
    rcases hfollowed with hlt | ⟨hdropped, -⟩
    · have hcall := List.getElem?_eq_getElem hlt
      exact ⟨_, hcall, hparams 1 _ Nat.one_pos hcall⟩
    · exact absurd rfl hdropped
  · obtain ⟨-, hset, -⟩ := run_slippage idle none (slipping [(slippageKey, .ofNat 2)])
    exact hset (by decide) 0 _ (attempts_slipping _) (slips_slippedAttempt _)

end Session

end Failsafe
