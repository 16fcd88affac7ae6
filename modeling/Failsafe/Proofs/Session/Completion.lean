import Failsafe.Proofs.History
import Failsafe.Proofs.Incident
import Failsafe.Proofs.Session.Attempt

/-!
# How a run comes to its end

A run that nobody drops goes through at least one attempt and at most as many as are allowed. All but the last
fail and are retried by the decision of the policy; the last succeeds, or it fails and the run gives up. Each
failure is recorded as an incident that carries the number of its attempt, and the incident of the last attempt
allowed, and of no other, is final.

`Unfolds.completes` shows this for a run at any attempt, by induction on the rules of `Unfolds`; what carries
the induction is that rules and records of the executor change by nothing but the run itself
(`Answers.sameBooks`, `observed_history`).
-/

namespace Failsafe

open Executor

/-- What a call numbered from 0 does. -/
def CallScript.nth (script : CallScript) (i : Nat) : CallStep := script.steps[i]?.getD script.fallback

theorem CallScript.nth_zero (script : CallScript) : script.nth 0 = script.next.1 := by
  unfold nth next
  cases script.steps <;> rfl

theorem CallScript.nth_succ (script : CallScript) (i : Nat) : script.nth (i + 1) = script.next.2.nth i := by
  unfold nth next
  cases h : script.steps with
  | nil => simp [h]
  | cons step rest => rfl

/-- Whether a run ended with an escalation. -/
def Session.RunOutcome.escalates : Session.RunOutcome → Bool
  | .stopped (.failed _ _ _ action) => action.escalate
  | _ => false

namespace Session

namespace Attempt

variable (a : Attempt)

/-- The incident that an attempt adds to the history, if it failed. -/
def incident? : Option Incident :=
  match a.step.result with
  | .ok _ => none
  | .error failure => some (a.incident failure)

theorem incident?_of_error {failure : Failure} (h : a.step.result = .error failure) :
    a.incident? = some (a.incident failure) := by
  unfold incident?
  rw [h]

theorem eq_incident {incident : Incident} (h : a.incident? = some incident) :
    ∃ failure, a.incident failure = incident := by
  unfold incident? at h
  split at h
  · exact absurd h (by simp)
  · next failure _ => exact ⟨failure, Option.some.inj h⟩

/-- How the last attempt ends a run: with its value, or with its failure if that must not be retried. -/
def Ends (limit : Nat) (outcome : RunOutcome) : Prop :=
  match a.step.result with
  | .ok value => outcome = .value value
  | .error failure =>
    outcome = .stopped (.failed a.run.operation failure (a.run.attempt + 1) (a.action failure)) ∧
      ((a.action failure).shouldRetry = false ∨ limit ≤ a.run.attempt + 1)

/-- Whether the attempt failed and the policy decided to retry. -/
def Retried : Prop := ∃ failure, a.step.result = .error failure ∧ (a.action failure).shouldRetry = true

end Attempt

/-! ## Attempts and incidents -/

/-- If all attempts before the last failed, incidents and attempts have the same numbers. -/
theorem incidents_of_failed {attempts : List Attempt}
    (h : ∀ a ∈ attempts.dropLast, ∃ failure, a.step.result = .error failure) (i : Nat) :
    (attempts.filterMap Attempt.incident?)[i]? = attempts[i]?.bind Attempt.incident? := by
  induction attempts generalizing i with
  | nil => rfl
  | cons a rest ih =>
    cases rest with
    | nil => cases i <;> cases hlast : a.incident? <;> simp [hlast]
    | cons next rest =>
      rw [List.dropLast_cons_of_ne_nil (List.cons_ne_nil next rest)] at h
      obtain ⟨failure, hresult⟩ := h a List.mem_cons_self
      have hincident := a.incident?_of_error hresult
      rw [List.filterMap_cons, hincident]
      cases i with
      | zero => simp [hincident]
      | succ i => exact ih (fun b hb => h b (List.mem_cons_of_mem _ hb)) i

section

variable {deadline : Option Nat} {limit : Nat} {s s' : Session} {run : Run} {script : CallScript}
  {attempts : List Attempt} {calls : List Call} {outcome : RunOutcome}

/-- A run goes on after every attempt before the last. -/
theorem Unfolds.goesOn (h : Unfolds deadline limit s run script attempts s' calls outcome) :
    ∀ a ∈ attempts.dropLast, ∃ failure, a.step.result = .error failure ∧ a.goesOn limit failure := by
  induction h with
  | dropped hsleep => exact fun a ha => absurd ha List.not_mem_nil
  | succeeded hanswers hresult => exact fun a ha => absurd ha List.not_mem_nil
  | gaveUp hanswers hresult hends => exact fun a ha => absurd ha List.not_mem_nil
  | droppedWaiting hanswers hresult hgoes hsleep => exact fun a ha => absurd ha List.not_mem_nil
  | @retried s run script first failure next rest s'' calls outcome hanswers hresult hgoes hsleep hrest ih =>
    intro a ha
    cases rest with
    | nil => exact absurd ha List.not_mem_nil
    | cons second rest =>
      rw [List.dropLast_cons_of_ne_nil (List.cons_ne_nil second rest)] at ha
      rcases List.mem_cons.mp ha with rfl | ha
      · exact ⟨failure, hresult, hgoes⟩
      · exact ih a ha

theorem Unfolds.incidents (h : Unfolds deadline limit s run script attempts s' calls outcome) (i : Nat) :
    (attempts.filterMap Attempt.incident?)[i]? = attempts[i]?.bind Attempt.incident? := by
  refine incidents_of_failed (fun a ha => ?_) i
  obtain ⟨failure, hresult, -⟩ := h.goesOn a ha
  exact ⟨failure, hresult⟩

/-- A run records the incidents of its failed attempts in order, and an escalation if it ends with one. -/
theorem Unfolds.history (h : Unfolds deadline limit s run script attempts s' calls outcome) :
    s'.executor.history =
      let recorded := (attempts.filterMap Attempt.incident?).foldl History.record s.executor.history
      if outcome.escalates then recorded.recordEscalation else recorded := by
  induction h with
  | @dropped s run script s' hsleep =>
    have hbooks := sleepAmong_sameBooks s deadline script.next.1.takes script.next.1.during
    rw [hsleep] at hbooks
    exact hbooks.history
  | succeeded hanswers hresult =>
    rw [← hanswers.sameBooks.history]
    simp [Attempt.incident?, hresult, RunOutcome.escalates, Attempt.succeeded, Executor.succeed]
  | @gaveUp s run script a failure hanswers hresult hends =>
    rw [a.givenUp_history, a.observed_history, ← hanswers.sameBooks.history]
    simp [Attempt.incident?, hresult, RunOutcome.escalates]
  | @droppedWaiting s run script a failure s' hanswers hresult hgoes hsleep =>
    have hbooks := sleepAmong_sameBooks (a.observed failure) deadline (a.action failure).delay.millisUp a.step.between
    rw [hsleep] at hbooks
    rw [hbooks.history, a.observed_history, hanswers.sameBooks.history]
    simp [Attempt.incident?, hresult, RunOutcome.escalates]
  | @retried s run script a failure next rest s'' calls outcome hanswers hresult hgoes hsleep hrest ih =>
    have hbooks := sleepAmong_sameBooks (a.observed failure) deadline (a.action failure).delay.millisUp a.step.between
    rw [hsleep] at hbooks
    -- Nobody else records anything between this failure and the next call.
    rw [ih, hbooks.history, a.observed_history, hanswers.sameBooks.history, List.filterMap_cons,
      a.incident?_of_error hresult]
    rfl

/-- So the history has gained these incidents, whether the run ended with an escalation or not. -/
theorem Unfolds.gains (h : Unfolds deadline limit s run script attempts s' calls outcome) :
    s.executor.history.Gains (attempts.filterMap Attempt.incident?) s'.executor.history := by
  have hgains := History.Gains.foldl_record s.executor.history (attempts.filterMap Attempt.incident?)
  rw [h.history]
  dsimp only
  split
  · exact hgains.recordEscalation
  · exact hgains

end

/-! ## From the first attempt to the last -/

/-- How a run that nobody drops goes from its attempt number `run.attempt` to its end. -/
structure Completes (limit : Nat) (s : Session) (run : Run) (script : CallScript) (attempts : List Attempt)
    (s' : Session) (calls : List Call) (outcome : RunOutcome) : Prop where
  calls_eq : calls = attempts.map Attempt.call
  bound : run.attempt + attempts.length ≤ limit
  numbered : ∀ i a, attempts[i]? = some a →
    a.run.attempt = run.attempt + i ∧ a.run.operation = run.operation ∧ a.step = script.nth i
  rules : ∀ a ∈ attempts, SameRules s.executor a.answered.executor
  ended : ∃ earlier last, attempts = earlier ++ [last] ∧ (∀ a ∈ earlier, a.Retried) ∧ last.Ends limit outcome
  history : s'.executor.history =
    let recorded := (attempts.filterMap Attempt.incident?).foldl History.record s.executor.history
    if outcome.escalates then recorded.recordEscalation else recorded

variable {limit : Nat} {s s' : Session} {run : Run} {script : CallScript} {a : Attempt}
  {attempts : List Attempt} {calls : List Call} {outcome : RunOutcome}

/-- The last attempt of a run. -/
theorem Answers.completes (h : Answers none s run script a) (hrun : run.attempt < limit)
    (hends : a.Ends limit outcome)
    (hhistory : s'.executor.history =
      let recorded := ([a].filterMap Attempt.incident?).foldl History.record s.executor.history
      if outcome.escalates then recorded.recordEscalation else recorded) :
    Completes limit s run script [a] s' [a.call] outcome where
  calls_eq := rfl
  bound := hrun
  numbered := by
    intro i b hb
    obtain ⟨rfl, rfl⟩ : i = 0 ∧ a = b := by simpa [List.getElem?_singleton] using hb
    rw [h.run, h.step, script.nth_zero]
    exact ⟨rfl, rfl, rfl⟩
  rules := by
    intro b hb
    obtain rfl := List.mem_singleton.mp hb
    exact h.sameBooks.toSameRules
  ended := ⟨[], a, rfl, fun _ hb => absurd hb List.not_mem_nil, hends⟩
  history := hhistory

/-- One attempt more before a run that goes on. -/
theorem Answers.completes_retried {failure : Failure} {next : Session} (h : Answers none s run script a)
    (hresult : a.step.result = .error failure) (hgoes : a.goesOn limit failure)
    (hbooks : SameBooks (a.observed failure).executor next.executor)
    (hrest : Completes limit next (Executor.advance run (a.action failure)) script.next.2 attempts s' calls
      outcome)
    (hhistory : s'.executor.history =
      let recorded := ((a :: attempts).filterMap Attempt.incident?).foldl History.record s.executor.history
      if outcome.escalates then recorded.recordEscalation else recorded) :
    Completes limit s run script (a :: attempts) s' (a.call :: calls) outcome where
  calls_eq := by rw [hrest.calls_eq, List.map_cons]
  bound := by
    have := hrest.bound
    simp only [Executor.advance, List.length_cons] at this ⊢
    omega
  numbered := by
    intro i b hb
    cases i with
    | zero =>
      obtain rfl : a = b := by simpa using hb
      rw [h.run, h.step, script.nth_zero]
      exact ⟨rfl, rfl, rfl⟩
    | succ i =>
      rw [List.getElem?_cons_succ] at hb
      obtain ⟨hattempt, hoperation, hstep⟩ := hrest.numbered i b hb
      refine ⟨?_, hoperation, hstep.trans (script.nth_succ i).symm⟩
      rw [hattempt]
      simp only [Executor.advance]
      omega
  rules := by
    have hfirst := h.sameBooks.toSameRules
    intro b hb
    rcases List.mem_cons.mp hb with rfl | hb
    · exact hfirst
    · exact ((hfirst.trans (a.observed_rules failure)).trans hbooks.toSameRules).trans (hrest.rules b hb)
  ended := by
    obtain ⟨earlier, last, rfl, hretried, hends⟩ := hrest.ended
    refine ⟨a :: earlier, last, rfl, fun b hb => ?_, hends⟩
    rcases List.mem_cons.mp hb with rfl | hb
    · exact ⟨failure, hresult, hgoes.1⟩
    · exact hretried b hb
  history := hhistory

/-- A run that nobody drops comes to its end. -/
theorem Unfolds.completes (h : Unfolds none limit s run script attempts s' calls outcome)
    (hrun : run.attempt < limit) : Completes limit s run script attempts s' calls outcome := by
  -- Without a deadline every sleeper wakes, so the two rules for a dropped run do not apply.
  induction h with
  | dropped hsleep => exact absurd (congrArg Prod.snd hsleep) (by simp [sleepAmong_none])
  | @succeeded s run script a value hanswers hresult =>
    have hunfolds : Unfolds none limit s run script [a] a.succeeded [a.call] (.value value) :=
      .succeeded hanswers hresult
    refine hanswers.completes hrun ?_ hunfolds.history
    unfold Attempt.Ends
    rw [hresult]
  | @gaveUp s run script a failure hanswers hresult hends =>
    refine hanswers.completes hrun ?_ (Unfolds.gaveUp hanswers hresult hends).history
    unfold Attempt.Ends
    rw [hresult, hanswers.run]
    refine ⟨rfl, ?_⟩
    unfold Attempt.goesOn at hends
    rw [hanswers.run] at hends
    by_cases hretry : (a.action failure).shouldRetry = true
    · exact .inr (Nat.not_lt.mp fun hlt => hends ⟨hretry, hlt⟩)
    · exact .inl (by simpa using hretry)
  | droppedWaiting hanswers hresult hgoes hsleep => exact absurd (congrArg Prod.snd hsleep) (by simp [sleepAmong_none])
  | @retried s run script a failure next rest s'' calls outcome hanswers hresult hgoes hsleep hrest ih =>
    have hbooks := sleepAmong_sameBooks (a.observed failure) none (a.action failure).delay.millisUp a.step.between
    rw [hsleep] at hbooks
    have hlt : run.attempt + 1 < limit := by
      rw [← hanswers.run]
      exact hgoes.2
    exact hanswers.completes_retried hresult hgoes hbooks (ih hlt)
      (Unfolds.retried hanswers hresult hgoes hsleep hrest).history

/-! ## Runs -/

theorem maxAttempts_eq (e : Executor) : e.maxAttempts = max 1 e.limits.maxRetries.toNat := Nat.max_comm _ _

theorem maxAttempts_pos (e : Executor) : 0 < e.maxAttempts := by
  rw [maxAttempts_eq]
  omega

theorem run_eq (h : s.executor.breaker.active = false) (deadline : Option Nat) (request : RunRequest) :
    s.run deadline request =
      s.runCalls deadline (max 1 s.executor.limits.maxRetries.toNat) ⟨request.operation, request.params, 0⟩
        request.script := by
  unfold Session.run Executor.begin?
  rw [h, ← maxAttempts_eq]
  rfl

/-- The incident of a failure carries the number of the attempt and the limit of the executor. -/
theorem Completes.incident_number (h : Completes limit s run script attempts s' calls outcome)
    (hlimit : limit < 2 ^ 32) {i : Nat} (ha : attempts[i]? = some a) (failure : Failure) :
    (a.incident failure).retryCount.toNat = run.attempt + i ∧
      (a.incident failure).maxRetries = s.executor.limits.maxRetries := by
  have hattempt := (h.numbered i a ha).1
  have hbound := h.bound
  have hi : i < attempts.length := (List.getElem?_eq_some_iff.mp ha).1
  have hrules := h.rules a (List.mem_of_getElem? ha)
  refine ⟨?_, ?_⟩
  · show a.run.attempt.toUInt32.toNat = run.attempt + i
    rw [hattempt]
    exact Nat.mod_eq_of_lt (by omega)
  · exact congrArg RetryLimits.maxRetries hrules.limits

theorem Completes.pos (h : Completes limit s run script attempts s' calls outcome) : 1 ≤ attempts.length := by
  obtain ⟨earlier, last, rfl, -⟩ := h.ended
  simp

theorem Completes.retried (h : Completes limit s run script attempts s' calls outcome) {i : Nat}
    (ha : attempts[i]? = some a) (hi : i + 1 < attempts.length) : a.Retried := by
  obtain ⟨earlier, last, rfl, hretried, -⟩ := h.ended
  rw [List.length_append, List.length_singleton] at hi
  rw [List.getElem?_append_left (by omega)] at ha
  exact hretried a (List.mem_of_getElem? ha)

/-- The last attempt has the number of attempts before it. -/
theorem Completes.last (h : Completes limit s run script attempts s' calls outcome) :
    ∃ last, attempts.getLast? = some last ∧ last.Ends limit outcome ∧
      last.run.attempt + 1 = run.attempt + attempts.length ∧ last.run.operation = run.operation := by
  obtain ⟨earlier, last, rfl, -, hends⟩ := h.ended
  obtain ⟨hattempt, hoperation, -⟩ := h.numbered earlier.length last (by simp)
  refine ⟨last, by simp, hends, ?_, hoperation⟩
  rw [hattempt, List.length_append, List.length_singleton]
  omega

theorem Completes.ne_cancelled (h : Completes limit s run script attempts s' calls outcome) :
    outcome ≠ .cancelled := by
  obtain ⟨last, -, hends, -⟩ := h.last
  unfold Attempt.Ends at hends
  rintro rfl
  split at hends
  · exact absurd hends (by simp)
  · exact absurd hends.1 (by simp)

theorem Completes.value_iff (h : Completes limit s run script attempts s' calls outcome) (value : Json) :
    outcome = .value value ↔ ∃ a, attempts.getLast? = some a ∧ a.step.result = .ok value := by
  obtain ⟨last, hlast, hends, -⟩ := h.last
  rw [hlast]
  unfold Attempt.Ends at hends
  cases hresult : last.step.result with
  | ok result =>
    rw [hresult] at hends
    simp [hends, hresult, eq_comm]
  | error failure =>
    rw [hresult] at hends
    simp [hends.1, hresult]

theorem Completes.stopped_iff (h : Completes limit s run script attempts s' calls outcome) (error : RunError) :
    outcome = .stopped error ↔ ∃ a failure, attempts.getLast? = some a ∧ a.step.result = .error failure ∧
      (run.attempt + attempts.length = limit ∨ (a.action failure).shouldRetry = false) ∧
      error = .failed run.operation failure (run.attempt + attempts.length) (a.action failure) := by
  obtain ⟨last, hlast, hends, hattempt, hoperation⟩ := h.last
  have hbound := h.bound
  unfold Attempt.Ends at hends
  cases hresult : last.step.result with
  | ok result =>
    rw [hresult] at hends
    simp [hends, hlast, hresult]
  | error failure =>
    rw [hresult] at hends
    obtain ⟨rfl, hwhy⟩ := hends
    constructor
    · intro herror
      refine ⟨last, failure, hlast, hresult, ?_, ?_⟩
      · rcases hwhy with hwhy | hwhy
        · exact .inr hwhy
        · exact .inl (by omega)
      · rw [← RunOutcome.stopped.inj herror, hattempt, hoperation]
    · rintro ⟨a, failure', ha, hresult', -, rfl⟩
      obtain rfl := Option.some.inj (hlast.symm.trans ha)
      obtain rfl := Except.error.inj (hresult.symm.trans hresult')
      rw [hattempt, hoperation]

/-- All attempts before the last add an incident, so that incidents and attempts have the same numbers. -/
theorem Completes.incidents (h : Completes limit s run script attempts s' calls outcome) (i : Nat) :
    (attempts.filterMap Attempt.incident?)[i]? = attempts[i]?.bind Attempt.incident? := by
  obtain ⟨earlier, last, rfl, hretried, -⟩ := h.ended
  refine incidents_of_failed (fun a ha => ?_) i
  rw [List.dropLast_concat] at ha
  obtain ⟨failure, hresult, -⟩ := hretried a ha
  exact ⟨failure, hresult⟩

/-- **How a run comes to its end.** A run that begins while the breaker is inactive, and is not dropped, goes
through attempts whose calls answer as the script says, whatever others do to the breaker meanwhile.

* There is at least one, and there are at most as many as are allowed; their number fits in its counter.
* Every attempt but the last failed, with the decision to retry.
* The run ends with a value if and only if the last attempt did. It ends with a failure, that of the last
  attempt, if and only if the last attempt failed and either no more are allowed or the decision was not to
  retry.
* What is recorded is, in order, the incidents of the failed attempts, numbered from 0, and the one with the
  number `i` is final if and only if no more than `i + 1` attempts are allowed. The history counts them, and
  shows them last when it is asked for recent incidents. -/
theorem run_attempts (s : Session) (request : RunRequest) (hinactive : s.executor.breaker.active = false) :
    ∃ (attempts : List Attempt) (s' : Session) (outcome : RunOutcome),
      s.run none request = (s', attempts.map Attempt.call, outcome) ∧
      Unfolds none (max 1 s.executor.limits.maxRetries.toNat) s ⟨request.operation, request.params, 0⟩
        request.script attempts s' (attempts.map Attempt.call) outcome ∧
      (1 ≤ attempts.length ∧ attempts.length ≤ max 1 s.executor.limits.maxRetries.toNat ∧
        attempts.length < 2 ^ 32) ∧
      (∀ (i : Nat) (a : Attempt), attempts[i]? = some a →
        a.run.attempt = i ∧ a.step = request.script.nth i ∧ (i + 1 < attempts.length → a.Retried)) ∧
      outcome ≠ .cancelled ∧
      (∀ value, outcome = .value value ↔ ∃ a, attempts.getLast? = some a ∧ a.step.result = .ok value) ∧
      (∀ error, outcome = .stopped error ↔ ∃ a failure, attempts.getLast? = some a ∧
        a.step.result = .error failure ∧
        (attempts.length = max 1 s.executor.limits.maxRetries.toNat ∨
          (a.action failure).shouldRetry = false) ∧
        error = .failed request.operation failure attempts.length (a.action failure)) ∧
      ∃ incidents : List Incident,
        s'.executor.history =
          (let recorded := incidents.foldl History.record s.executor.history
           if outcome.escalates then recorded.recordEscalation else recorded) ∧
        s.executor.history.Gains incidents s'.executor.history ∧
        (∀ i : Nat, incidents[i]? = attempts[i]?.bind Attempt.incident?) ∧
        ∀ (i : Nat) (incident : Incident), incidents[i]? = some incident →
          incident.retryCount.toNat = i ∧
          incident.isFinal? = some (decide (max 1 s.executor.limits.maxRetries.toNat ≤ i + 1)) := by
  have hlimit : max 1 s.executor.limits.maxRetries.toNat < 2 ^ 32 := by
    have := s.executor.limits.maxRetries.toNat_lt
    omega
  rcases hrun : s.run none request with ⟨s', calls, outcome⟩
  obtain ⟨attempts, hunfolds⟩ := runCalls_unfolds ((run_eq hinactive none request).symm.trans hrun)
  have h := hunfolds.completes (show 0 < max 1 s.executor.limits.maxRetries.toNat by omega)
  have hbound : attempts.length ≤ max 1 s.executor.limits.maxRetries.toNat := by simpa using h.bound
  obtain rfl := h.calls_eq
  refine ⟨attempts, s', outcome, rfl, hunfolds, ⟨h.pos, hbound, by omega⟩, ?_, h.ne_cancelled, h.value_iff, ?_,
    _, h.history, hunfolds.gains, h.incidents, ?_⟩
  · intro i a ha
    obtain ⟨hattempt, -, hstep⟩ := h.numbered i a ha
    exact ⟨by simpa using hattempt, hstep, h.retried ha⟩
  · intro error
    simpa using h.stopped_iff error
  · intro i incident hincident
    rw [h.incidents, Option.bind_eq_some_iff] at hincident
    obtain ⟨a, ha, hincident⟩ := hincident
    obtain ⟨failure, rfl⟩ := a.eq_incident hincident
    have hi : i < attempts.length := (List.getElem?_eq_some_iff.mp ha).1
    obtain ⟨hcount, hmax⟩ := h.incident_number hlimit ha failure
    simp only [Nat.zero_add] at hcount
    refine ⟨hcount, ?_⟩
    rw [Incident.isFinal?_of_lt (by omega), hcount, hmax]
    congr 2
    exact propext (by omega)

/-- A session that allows three attempts and has seen nothing yet. -/
def idle : Session :=
  { now := 0
    clock := .short
    settings := .default
    executor :=
      { limits := ⟨3, .ofSecs 1, 2.0⟩
        policy := .default
        redactor := ⟨true⟩
        breaker := .new "rpc" .default true
        history := .empty
        halted := false }
    registry := .new .default ⟨true⟩
    governor := .new
    hooks := []
    tasks := []
    log := []
    panicked := false }

/-- An operation that answers at once. -/
def ping : RunRequest := ⟨"ping", [], ⟨[], { takes := 0, side := [], result := .ok .null }⟩, none⟩

/-- An operation that meets with congestion and then no longer answers in time. -/
def exhausting : RunRequest :=
  ⟨"transfer", [],
    ⟨[{ takes := 10, side := [], result := .error (.plain "congestion") }],
      { takes := 10, side := [], result := .error .deadline }⟩, none⟩

/-- Two failures of that operation are retried, and the run ends with the third. The history shows the three of them, and
the last is final. -/
theorem run_attempts_exhausting :
    idle.executor.breaker.active = false ∧
      ∃ (first second third : Attempt) (s' : Session),
        idle.run none exhausting = (s', [first.call, second.call, third.call],
          .stopped (.failed "transfer" .deadline 3 (third.action .deadline))) ∧
        first.Retried ∧ second.Retried ∧ s'.executor.history.total = 3 ∧
        s'.executor.history.recent 3 =
          [first.incident (.plain "congestion"), second.incident .deadline, third.incident .deadline] ∧
        (s'.executor.history.recent 3).map (fun incident => (incident.retryCount.toNat, incident.isFinal?)) =
          [(0, some false), (1, some false), (2, some true)] := by
  obtain ⟨attempts, s', outcome, hrun, -, -, hattempts, hcancelled, hvalue, hstopped, incidents, -, hgains, hincidents,
    hnumbers⟩ := run_attempts idle exhausting rfl
  have hlength : attempts.length = 3 := by
    have hcalls : (idle.run none exhausting).2.1.length = 3 := by decide +kernel
    rw [hrun] at hcalls
    simpa using hcalls
  obtain ⟨first, second, third, rfl⟩ := List.length_eq_three.mp hlength
  obtain ⟨-, hfirst, hretried⟩ := hattempts 0 first rfl
  obtain ⟨-, hsecond, hretriedAgain⟩ := hattempts 1 second rfl
  obtain ⟨-, hthird, -⟩ := hattempts 2 third rfl
  have hfailed : third.step.result = .error .deadline := by rw [hthird]; rfl
  have hrecorded : incidents =
      [first.incident (.plain "congestion"), second.incident .deadline, third.incident .deadline] := by
    refine List.ext_getElem? fun i => ?_
    rw [hincidents]
    match i with
    | 0 => exact first.incident?_of_error (by rw [hfirst]; rfl)
    | 1 => exact second.incident?_of_error (by rw [hsecond]; rfl)
    | 2 => exact third.incident?_of_error hfailed
    | i + 3 => rfl
  have hnumbered {i : Nat} {incident : Incident} (h : incidents[i]? = some incident) :
      (incident.retryCount.toNat, incident.isFinal?) = (i, some (decide (3 ≤ i + 1))) :=
    Prod.ext (hnumbers i incident h).1 (hnumbers i incident h).2
  subst hrecorded
  have hshown : s'.executor.history.recent 3 = _ := hgains.recent 3 (by decide)
  have houtcome : outcome = .stopped (.failed "transfer" .deadline 3 (third.action .deadline)) :=
    (hstopped _).mpr ⟨third, .deadline, rfl, hfailed, .inl rfl, rfl⟩
  refine ⟨rfl, first, second, third, s', ?_, hretried (by simp), hretriedAgain (by simp), hgains.total, hshown, ?_⟩
  · rw [hrun, houtcome]
    rfl
  · rw [hshown]
    exact congrArg₂ _ (hnumbered (i := 0) rfl) (congrArg₂ _ (hnumbered (i := 1) rfl)
      (congrArg₂ _ (hnumbered (i := 2) rfl) rfl))

end Session

end Failsafe
