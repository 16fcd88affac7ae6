import Failsafe.Proofs.Session.Completion
import Failsafe.Proofs.Session.Course

/-!
# A breaker that is active during a run

The executor looks at the breaker when a run begins and after each call that failed. An active breaker at the
beginning means that nothing is called (`run_active`). During the run anybody may activate the breaker, at any
moment; the run finds out when its next call has failed.

An attempt after which a run goes on therefore answered while the breaker was inactive (`inactive_of_goesOn`). So
at most one call begins after a moment from which on the breaker is active (`le_begun_of_split`), and the failure
of that call halts the run and all trading (`Unfolds.halts`).
-/

namespace Failsafe

open Executor

namespace Session

namespace Attempt

variable (a : Attempt) {failure : Failure}

/-- With an active breaker the policy has but one answer. -/
theorem action_of_active (h : a.answered.executor.breaker.active = true) (failure : Failure) :
    a.action failure = .halt := by
  unfold action Policy.decide
  rw [if_pos h]

theorem inactive_of_goesOn {limit : Nat} (h : a.goesOn limit failure) :
    a.answered.executor.breaker.active = false := by
  rw [Bool.eq_false_iff]
  intro hactive
  have hretry := h.1
  rw [a.action_of_active hactive] at hretry
  simp [Action.halt, Action.giveUp] at hretry

/-- A decision to stop trading sets the halt flag, and giving up leaves it set. -/
theorem givenUp_halted (h : (a.action failure).stopTrading = true) : (a.givenUp failure).executor.halted = true := by
  have hobserved : (a.observed failure).executor.halted = true := by
    have hdecision : (a.answered.executor.policy.decide (a.incident failure)
        a.answered.executor.breaker.active).stopTrading = true := h
    show (a.answered.executor.observe (a.incident failure)).1.halted = true
    unfold observe
    dsimp only
    rw [if_pos hdecision]
    rfl
  show ((a.observed failure).executor.giveUp _ _ _).1.halted = true
  unfold giveUp
  dsimp only
  split <;> exact hobserved

end Attempt

variable {deadline : Option Nat} {limit : Nat} {s s' : Session} {run : Run} {script : CallScript}
  {attempts : List Attempt} {calls : List Call} {outcome : RunOutcome}

theorem Unfolds.calls_ne_nil (h : Unfolds deadline limit s run script attempts s' calls outcome) : calls ≠ [] := by
  cases h <;> simp

/-- Every attempt comes to an answer. -/
theorem Unfolds.getLast?_moments (h : Unfolds deadline limit s run script attempts s' calls outcome) :
    ∀ a ∈ attempts, (a.moments deadline).getLast? = some a.answered := by
  induction h with
  | dropped hsleep => exact fun a ha => absurd ha List.not_mem_nil
  | succeeded hanswers hresult =>
    intro a ha
    obtain rfl := List.mem_singleton.mp ha
    exact hanswers.getLast?_moments
  | gaveUp hanswers hresult hends =>
    intro a ha
    obtain rfl := List.mem_singleton.mp ha
    exact hanswers.getLast?_moments
  | droppedWaiting hanswers hresult hgoes hsleep =>
    intro a ha
    obtain rfl := List.mem_singleton.mp ha
    exact hanswers.getLast?_moments
  | retried hanswers hresult hgoes hsleep hrest ih =>
    intro a ha
    rcases List.mem_cons.mp ha with rfl | ha
    · exact hanswers.getLast?_moments
    · exact ih a ha

/-- Every attempt before the last answered while the breaker was inactive. -/
theorem Unfolds.inactive (h : Unfolds deadline limit s run script attempts s' calls outcome) :
    ∀ a ∈ attempts.dropLast, a.answered.executor.breaker.active = false := by
  intro a ha
  obtain ⟨failure, -, hgoes⟩ := h.goesOn a ha
  exact a.inactive_of_goesOn hgoes

/-- A run whose last call answered while the breaker was active ends with the value of that call, or its failure
halts everything. -/
theorem Unfolds.halts (h : Unfolds deadline limit s run script attempts s' calls outcome)
    (hreturned : attempts.length = calls.length) {last : Attempt} (hlast : attempts.getLast? = some last)
    (hactive : last.answered.executor.breaker.active = true) :
    (∃ value, last.step.result = .ok value ∧ outcome = .value value) ∨
      ∃ failure action, last.step.result = .error failure ∧
        outcome = .stopped (.failed run.operation failure (run.attempt + calls.length) action) ∧
        action.shouldRetry = false ∧ action.stopTrading = true ∧ s'.executor.halted = true := by
  induction h with
  | dropped hsleep => simp at hlast
  | @succeeded s run script a value hanswers hresult =>
    obtain rfl : a = last := by simpa using hlast
    exact .inl ⟨value, hresult, rfl⟩
  | @gaveUp s run script a failure hanswers hresult hends =>
    obtain rfl : a = last := by simpa using hlast
    have haction := a.action_of_active hactive failure
    have hstop : (a.action failure).stopTrading = true := by rw [haction]; rfl
    exact .inr ⟨failure, a.action failure, hresult, rfl, by rw [haction]; rfl, hstop, a.givenUp_halted hstop⟩
  | @droppedWaiting s run script a failure s' hanswers hresult hgoes hsleep =>
    obtain rfl : a = last := by simpa using hlast
    exact absurd ((a.inactive_of_goesOn hgoes).symm.trans hactive) (by simp)
  | @retried s run script first failure next rest s'' calls outcome hanswers hresult hgoes hsleep hrest ih =>
    have hlength : rest.length = calls.length := by simpa using hreturned
    cases rest with
    | nil => exact absurd (List.length_eq_zero_iff.mp hlength.symm) hrest.calls_ne_nil
    | cons second rest =>
      rw [List.getLast?_cons_cons] at hlast
      have hattempt : (Executor.advance run (first.action failure)).attempt + calls.length =
          run.attempt + (first.call :: calls).length := by
        simp only [Executor.advance, List.length_cons]
        omega
      rw [← hattempt]
      exact ih hlength hlast

/-! ## Moments -/

theorem exists_moment_answered {a : Attempt} (h : (a.moments deadline).getLast? = some a.answered) (n : Nat)
    (rest : List Attempt) : ∃ m ∈ timelineFrom deadline n (a :: rest), m.session = a.answered := by
  have hmem : a.answered ∈ a.moments deadline := List.mem_of_getLast? h
  refine ⟨⟨a.answered, n + 1⟩, ?_, rfl⟩
  cases rest with
  | nil => exact List.mem_map.mpr ⟨_, hmem, rfl⟩
  | cons next rest =>
    refine List.mem_append_left _ (List.mem_map.mpr ⟨_, ?_, rfl⟩)
    exact List.mem_append_left _ hmem

/-- From a moment on after which the breaker is active throughout, at most one call begins; and the last call
answers while it is active. -/
theorem le_begun_of_split (hanswered : ∀ a ∈ attempts, (a.moments deadline).getLast? = some a.answered)
    (hinactive : ∀ a ∈ attempts.dropLast, a.answered.executor.breaker.active = false) {n : Nat}
    {before since : List Moment} {m : Moment}
    (hsplit : timelineFrom deadline n attempts = before ++ m :: since)
    (hactive : ∀ x ∈ m :: since, x.session.executor.breaker.active = true) :
    n + attempts.length ≤ m.begun + 1 ∧
      ∃ last, attempts.getLast? = some last ∧ last.answered.executor.breaker.active = true := by
  induction attempts generalizing n before m since with
  | nil => simp [timelineFrom] at hsplit
  | cons a rest ih =>
    cases rest with
    | nil =>
      have hm : m ∈ timelineFrom deadline n [a] := by
        rw [hsplit]
        exact List.mem_append_right _ List.mem_cons_self
      obtain ⟨t, -, rfl⟩ := List.mem_map.mp hm
      refine ⟨by simp, a, rfl, ?_⟩
      -- The moment of the answer is the last of the timeline.
      have hlast : (before ++ ⟨t, n + 1⟩ :: since).getLast? = some ⟨a.answered, n + 1⟩ := by
        rw [← hsplit]
        show ((a.moments deadline).map _).getLast? = _
        rw [List.getLast?_map, hanswered a List.mem_cons_self]
        rfl
      obtain ⟨y, hy⟩ : ∃ y, (⟨t, n + 1⟩ :: since : List Moment).getLast? = some y := ⟨_, List.getLast?_cons⟩
      rw [List.getLast?_append, hy, Option.some_or] at hlast
      obtain rfl := Option.some.inj hlast
      exact hactive _ (List.mem_of_getLast? hy)
    | cons next rest =>
      have hanswered' : ∀ b ∈ next :: rest, (b.moments deadline).getLast? = some b.answered :=
        fun b hb => hanswered b (List.mem_cons_of_mem _ hb)
      have hinactive' : ∀ b ∈ (next :: rest).dropLast, b.answered.executor.breaker.active = false := by
        intro b hb
        refine hinactive b ?_
        rw [List.dropLast_cons_of_ne_nil (List.cons_ne_nil next rest)]
        exact List.mem_cons_of_mem _ hb
      rw [List.getLast?_cons_cons]
      unfold timelineFrom at hsplit
      rcases List.append_eq_append_iff.mp hsplit with ⟨later, -, hrest⟩ | ⟨here, hhere, hrest⟩
      · -- The moment comes after the second call has begun.
        obtain ⟨hle, hlast⟩ := ih hanswered' hinactive' hrest hactive
        exact ⟨by simp only [List.length_cons] at hle ⊢; omega, hlast⟩
      · cases here with
        | nil =>
          have hfirst : timelineFrom deadline (n + 1) (next :: rest) = [] ++ m :: since := hrest.symm
          obtain ⟨hle, hlast⟩ := ih hanswered' hinactive' hfirst hactive
          exact ⟨by simp only [List.length_cons] at hle ⊢; omega, hlast⟩
        | cons m' here =>
          obtain ⟨rfl, rfl⟩ : m = m' ∧ since = here ++ timelineFrom deadline (n + 1) (next :: rest) := by
            simpa using hrest
          have hbegun : m.begun = n + 1 := by
            have hm : m ∈ (a.moments deadline ++ a.pause deadline).map fun s => (⟨s, n + 1⟩ : Moment) := by
              rw [hhere]
              exact List.mem_append_right _ List.mem_cons_self
            obtain ⟨_, -, rfl⟩ := List.mem_map.mp hm
            rfl
          have hactive' : ∀ x ∈ timelineFrom deadline (n + 1) (next :: rest),
              x.session.executor.breaker.active = true :=
            fun x hx => hactive x (List.mem_cons_of_mem _ (List.mem_append_right _ hx))
          obtain ⟨x, hx, hxanswered⟩ := exists_moment_answered (hanswered' next List.mem_cons_self) (n + 1) rest
          cases rest with
          | nil =>
            refine ⟨by simp [hbegun], next, rfl, ?_⟩
            rw [← hxanswered]
            exact hactive' x hx
          | cons third rest =>
            -- The second call would have answered while the breaker was active, and still been retried.
            have hnext := hactive' x hx
            rw [hxanswered, hinactive' next List.mem_cons_self] at hnext
            exact absurd hnext (by simp)

/-- **A breaker that is active during a run.** If it is active when the run begins, nothing is called, and nothing
at all changes. For every moment of a run, up to the answer of its last call, from which on the breaker is
active: at most one call begins after it, and the run ends with the value of its last call, or with the failure of
that call and with the decision not to retry and to stop trading, and the halt flag is set. What others do
meanwhile, and whether the run has a deadline, is of no importance. -/
theorem run_failFast (s : Session) (deadline : Option Nat) (request : RunRequest) :
    (s.executor.breaker.active = true →
      s.run deadline request = (s, [], .stopped (.circuitOpen request.operation))) ∧
    ∀ s' calls outcome, s.run deadline request = (s', calls, outcome) →
      (s.attempts deadline request).length = calls.length →
      ∀ before m since, timeline deadline (s.attempts deadline request) = before ++ m :: since →
        (∀ x ∈ m :: since, x.session.executor.breaker.active = true) →
        calls.length ≤ m.begun + 1 ∧
          ∃ last, (s.attempts deadline request).getLast? = some last ∧
            ((∃ value, last.step.result = .ok value ∧ outcome = .value value) ∨
              ∃ failure action, last.step.result = .error failure ∧
                outcome = .stopped (.failed request.operation failure calls.length action) ∧
                action.shouldRetry = false ∧ action.stopTrading = true ∧ s'.executor.halted = true) := by
  refine ⟨fun h => (run_active h deadline request).1, ?_⟩
  intro s' calls outcome hrun hreturned before m since hsplit hactive
  cases hbegin : s.executor.breaker.active with
  | true =>
    rw [(run_active hbegin deadline request).2] at hsplit
    simp [timeline, timelineFrom] at hsplit
  | false =>
    have hunfolds := run_unfolds hbegin deadline request
    rw [hrun] at hunfolds
    obtain ⟨hle, last, hlast, hlastActive⟩ :=
      le_begun_of_split hunfolds.getLast?_moments hunfolds.inactive hsplit hactive
    refine ⟨by omega, last, hlast, ?_⟩
    simpa using hunfolds.halts hreturned hlast hlastActive

/-- A session whose breaker the first failure activates. -/
def brittle : Session :=
  { idle with executor := { idle.executor with breaker := .new "rpc" ⟨1, 30⟩ true } }

/-- An operation that fails after a second, right after a failure of somebody else. -/
def struck : RunRequest :=
  ⟨"ping", [], ⟨[], { takes := 1000, side := [.breakerFailure], result := .error .deadline }⟩, none⟩

/-- The first attempt of that operation in that session. -/
def struckAttempt : Attempt :=
  ⟨brittle, ⟨"ping", [], 0⟩, struck.script.next.1,
    [SideEffect.breakerFailure].foldl sideEffect (brittle.sleepAmong none 1000 []).1⟩

theorem active_struckAttempt : struckAttempt.answered.executor.breaker.active = true := rfl

theorem run_struck :
    brittle.run none struck =
        (struckAttempt.givenUp .deadline, [struckAttempt.call],
          .stopped (.failed "ping" .deadline 1 (struckAttempt.action .deadline))) ∧
      brittle.attempts none struck = [struckAttempt] := by
  have hanswers : Answers none brittle ⟨"ping", [], 0⟩ struck.script struckAttempt :=
    ⟨rfl, rfl, rfl, _, rfl, rfl⟩
  have hends : ¬ struckAttempt.goesOn brittle.executor.maxAttempts .deadline := fun h =>
    absurd (struckAttempt.inactive_of_goesOn h) (by simp [active_struckAttempt])
  constructor
  · show brittle.runCalls none brittle.executor.maxAttempts ⟨"ping", [], 0⟩ struck.script = _
    rw [runCalls_answered hanswers]
    exact if_neg hends
  · show attemptsFrom none brittle.executor.maxAttempts brittle ⟨"ping", [], 0⟩ struck.script = _
    rw [attemptsFrom_answered hanswers]
    exact if_neg hends

/-- The failure that comes right before the answer is enough: there is no second call, and trading halts. Whatever
is run next is not called at all. -/
theorem run_failFast_struck :
    timeline none (brittle.attempts none struck) =
        [⟨brittle, 1⟩, ⟨brittle.sleepTo 1000, 1⟩] ++ [⟨struckAttempt.answered, 1⟩] ∧
      (∃ action, (brittle.run none struck).2.2 = .stopped (.failed "ping" .deadline 1 action) ∧
        action.shouldRetry = false ∧ action.stopTrading = true) ∧
      (brittle.run none struck).1.executor.halted = true ∧
      struckAttempt.answered.run none ping = (struckAttempt.answered, [], .stopped (.circuitOpen "ping")) := by
  obtain ⟨hrun, hattempts⟩ := run_struck
  have htimeline : timeline none (brittle.attempts none struck) =
      [⟨brittle, 1⟩, ⟨brittle.sleepTo 1000, 1⟩] ++ [⟨struckAttempt.answered, 1⟩] := by
    rw [hattempts]
    rfl
  have hactive : ∀ x ∈ [(⟨struckAttempt.answered, 1⟩ : Moment)], x.session.executor.breaker.active = true := by
    intro x hx
    rw [List.mem_singleton.mp hx]
    exact active_struckAttempt
  obtain ⟨-, last, hlast, hend⟩ :=
    (run_failFast brittle none struck).2 _ _ _ hrun (by rw [hattempts]; rfl) _ _ _ htimeline hactive
  rw [hattempts] at hlast
  obtain rfl : struckAttempt = last := by simpa using hlast
  rcases hend with ⟨value, hvalue, -⟩ | ⟨failure, action, hfailure, houtcome, hretry, hstop, hhalted⟩
  · exact absurd hvalue (by simp [struckAttempt, struck, CallScript.next])
  · obtain rfl : Failure.deadline = failure := Except.error.inj hfailure
    rw [hrun]
    exact ⟨htimeline, ⟨action, houtcome, hretry, hstop⟩, hhalted,
      (run_failFast struckAttempt.answered none ping).1 active_struckAttempt⟩

end Session

end Failsafe
