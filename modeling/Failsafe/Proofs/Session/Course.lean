import Failsafe.Proofs.Session.Attempt

/-!
# The course of a run

`Session.attempts` lists the attempts of a run, that is, its calls that answered: each with the session when the
call began and the session when it had answered. It is the list that `Unfolds` relates the run to
(`run_unfolds`), and the only one (`Unfolds.attempts_eq`).

`timeline` lists the moments of a run up to the answer of its last call: a moment for the beginning of each
call, for each thing that happens while the call is under way or while the run waits for its next call, whether
by the clock or by the hands of others, and for the answer of the call, which is the last moment of the call
(`getLast?_moments`). Between two moments nothing changes.
-/

namespace Failsafe

namespace Session

/-! ## Attempts -/

/-- The attempts of a run from here on. -/
def attemptsFrom (deadline : Option Nat) (limit : Nat) (s : Session) (run : Run) (script : CallScript) :
    List Attempt :=
  match s.sleepAmong deadline script.next.1.takes script.next.1.during with
  | (_, false) => []
  | (woken, true) =>
    let a : Attempt := ⟨s, run, script.next.1, script.next.1.side.foldl sideEffect woken⟩
    match a.step.result with
    | .ok _ => [a]
    | .error failure =>
      if _h : a.goesOn limit failure then
        match (a.observed failure).sleepAmong deadline (a.action failure).delay.millisUp a.step.between with
        | (_, false) => [a]
        | (next, true) => a :: attemptsFrom deadline limit next (Executor.advance run (a.action failure)) script.next.2
      else [a]
termination_by limit - run.attempt
decreasing_by
  have hlt : run.attempt + 1 < limit := _h.2
  simp only [Executor.advance]
  omega

theorem attemptsFrom_answered {deadline : Option Nat} {limit : Nat} {s : Session} {run : Run} {script : CallScript}
    {a : Attempt} (h : Answers deadline s run script a) :
    attemptsFrom deadline limit s run script =
      match a.step.result with
      | .ok _ => [a]
      | .error failure =>
        if a.goesOn limit failure then
          match (a.observed failure).sleepAmong deadline (a.action failure).delay.millisUp a.step.between with
          | (_, false) => [a]
          | (next, true) =>
            a :: attemptsFrom deadline limit next (Executor.advance run (a.action failure)) script.next.2
        else [a] := by
  obtain ⟨begun, run', step, answered⟩ := a
  obtain ⟨rfl, rfl, rfl, woken, hsleep, hanswered⟩ := h
  dsimp only at hsleep hanswered
  subst hanswered
  rw [attemptsFrom, hsleep]
  rfl

/-- A call that answers is the first attempt. -/
theorem attemptsFrom_zero {deadline : Option Nat} {limit : Nat} {s : Session} {run : Run} {script : CallScript}
    {a : Attempt} (h : Answers deadline s run script a) :
    (attemptsFrom deadline limit s run script)[0]? = some a := by
  rw [attemptsFrom_answered h]
  split
  · rfl
  · split
    · split <;> rfl
    · rfl

/-- A run unfolds into its attempts and into no others. -/
theorem Unfolds.attempts_eq {deadline : Option Nat} {limit : Nat} {s s' : Session} {run : Run} {script : CallScript}
    {attempts : List Attempt} {calls : List Call} {outcome : RunOutcome}
    (h : Unfolds deadline limit s run script attempts s' calls outcome) :
    attemptsFrom deadline limit s run script = attempts := by
  induction h with
  | dropped hsleep => rw [attemptsFrom, hsleep]
  | succeeded hanswers hresult => rw [attemptsFrom_answered hanswers, hresult]
  | gaveUp hanswers hresult hends =>
    rw [attemptsFrom_answered hanswers, hresult]
    exact if_neg hends
  | droppedWaiting hanswers hresult hgoes hsleep =>
    rw [attemptsFrom_answered hanswers, hresult]
    dsimp only
    rw [if_pos hgoes, hsleep]
  | retried hanswers hresult hgoes hsleep hrest ih =>
    rw [attemptsFrom_answered hanswers, hresult]
    dsimp only
    rw [if_pos hgoes, hsleep]
    dsimp only
    rw [ih]

/-- The attempts of a run; there is none while the breaker is active. -/
def attempts (s : Session) (deadline : Option Nat) (request : RunRequest) : List Attempt :=
  match s.executor.begin? request.operation request.params with
  | none => []
  | some run => attemptsFrom deadline s.executor.maxAttempts s run request.script

/-- A run that begins while the breaker is active ends where it began. -/
theorem run_active {s : Session} (h : s.executor.breaker.active = true) (deadline : Option Nat)
    (request : RunRequest) :
    s.run deadline request = (s, [], .stopped (.circuitOpen request.operation)) ∧
      s.attempts deadline request = [] := by
  unfold Session.run attempts Executor.begin?
  rw [if_pos h]
  exact ⟨rfl, rfl⟩

/-- A run that begins while the breaker is inactive unfolds into its attempts. -/
theorem run_unfolds {s : Session} (h : s.executor.breaker.active = false) (deadline : Option Nat)
    (request : RunRequest) :
    Unfolds deadline s.executor.maxAttempts s ⟨request.operation, request.params, 0⟩ request.script
      (s.attempts deadline request) (s.run deadline request).1 (s.run deadline request).2.1
      (s.run deadline request).2.2 := by
  have hbegin : s.executor.begin? request.operation request.params =
      some ⟨request.operation, request.params, 0⟩ := by
    unfold Executor.begin?
    rw [if_neg (by simp [h])]
  have hrun : s.run deadline request =
      s.runCalls deadline s.executor.maxAttempts ⟨request.operation, request.params, 0⟩ request.script := by
    unfold Session.run
    rw [hbegin]
  have hattempts : s.attempts deadline request =
      attemptsFrom deadline s.executor.maxAttempts s ⟨request.operation, request.params, 0⟩ request.script := by
    unfold attempts
    rw [hbegin]
  obtain ⟨attempts, hunfolds⟩ := runCalls_unfolds hrun.symm
  rw [hattempts, hunfolds.attempts_eq]
  exact hunfolds

/-- A run whose breaker is active at the beginning changes nothing, and any other one unfolds. -/
theorem ThroughSleep.run {R : Session → Session → Prop} (h : ThroughSleep R)
    (hobserved : ∀ (a : Attempt) failure, R a.answered (a.observed failure))
    (hgivenUp : ∀ (a : Attempt) failure, R (a.observed failure) (a.givenUp failure))
    (hsucceeded : ∀ a : Attempt, R a.answered a.succeeded)
    (s : Session) (deadline : Option Nat) (request : RunRequest) : R s (s.run deadline request).1 := by
  cases hactive : s.executor.breaker.active with
  | true =>
    rw [(run_active hactive deadline request).1]
    exact h.refl s
  | false => exact h.unfolds hobserved hgivenUp hsucceeded (run_unfolds hactive deadline request)

/-! ## Moments -/

/-- The session after each thing that is due by a time has happened. -/
def settleMoments (time : Nat) : Nat → Session → List Session
  | 0, _ => []
  | bound + 1, s =>
    match s.nextDue time with
    | none => []
    | some (moment, what) => s.happen moment what :: settleMoments time bound (s.happen moment what)

/-- The moments that the clock goes through on its way to a later time. -/
def sleepToMoments (s : Session) (time : Nat) : List Session :=
  if s.now < time then settleMoments (time - 1) (s.dueBound (time - 1)) s ++ [s.sleepTo time] else []

/-- The moments of a sleep. -/
def sleepMoments (s : Session) (deadline : Option Nat) (ms : Nat) : List Session :=
  let wake := s.clock.wake s.now ms
  match deadline with
  | some d => s.sleepToMoments (if wake ≤ d then wake else d)
  | none => s.sleepToMoments wake

/-- The moments of a sleep while others act. -/
def sleepAmongMoments (s : Session) (deadline : Option Nat) (ms : Nat) : List (Nat × SideEffect) → List Session
  | [] => s.sleepMoments deadline ms
  | (gap, effect) :: rest =>
    let ms := s.clock.lasts s.now ms
    if ms < gap then s.sleepMoments deadline ms
    else
      s.sleepMoments deadline gap ++
        match s.sleep deadline gap with
        | (_, false) => []
        | (s, true) => s.sideEffect effect :: (s.sideEffect effect).sleepAmongMoments deadline (ms - gap) rest

/-- The moments of several acts of others. -/
def sideMoments (s : Session) : List SideEffect → List Session
  | [] => []
  | effect :: rest => s.sideEffect effect :: (s.sideEffect effect).sideMoments rest

namespace Attempt

variable (a : Attempt) (deadline : Option Nat)

/-- The moments of the call: from its beginning to its answer. -/
def moments : List Session :=
  a.begun :: (a.begun.sleepAmongMoments deadline a.step.takes a.step.during ++
    (a.begun.sleepAmong deadline a.step.takes a.step.during).1.sideMoments a.step.side)

/-- The moments between a call that failed and the next one. -/
def pause : List Session :=
  match a.step.result with
  | .ok _ => []
  | .error failure =>
    a.observed failure ::
      (a.observed failure).sleepAmongMoments deadline (a.action failure).delay.millisUp a.step.between

end Attempt

/-- A moment of a run. -/
structure Moment where
  session : Session
  /-- The number of calls that have begun. -/
  begun : Nat

/-- The moments of a run, up to the answer of its last call, from when `n` calls have begun. -/
def timelineFrom (deadline : Option Nat) : Nat → List Attempt → List Moment
  | _, [] => []
  | n, [last] => (last.moments deadline).map (⟨·, n + 1⟩)
  | n, a :: next :: rest =>
    (a.moments deadline ++ a.pause deadline).map (⟨·, n + 1⟩) ++ timelineFrom deadline (n + 1) (next :: rest)

/-- The moments of a run up to the answer of its last call. -/
def timeline (deadline : Option Nat) (attempts : List Attempt) : List Moment := timelineFrom deadline 0 attempts

theorem getLast?_sleepToMoments (s : Session) (time : Nat) :
    (s :: s.sleepToMoments time).getLast? = some (s.sleepTo time) := by
  unfold sleepToMoments
  split
  · rw [← List.cons_append, List.getLast?_append]
    rfl
  · next hlate =>
    unfold sleepTo
    rw [if_neg hlate]
    rfl

/-- A sleep ends with its last moment. -/
theorem getLast?_sleepMoments (s : Session) (deadline : Option Nat) (ms : Nat) :
    (s :: s.sleepMoments deadline ms).getLast? = some (s.sleep deadline ms).1 := by
  unfold sleepMoments sleep
  cases deadline with
  | none => exact getLast?_sleepToMoments s _
  | some d =>
    dsimp only
    split
    · exact getLast?_sleepToMoments s _
    · exact getLast?_sleepToMoments s _

theorem getLast?_append_of {α : Type} {x y z : α} {first rest : List α} (h : (x :: first).getLast? = some y)
    (h' : (y :: rest).getLast? = some z) : (x :: (first ++ rest)).getLast? = some z := by
  rw [← List.cons_append, List.getLast?_append, h]
  cases rest with
  | nil => simpa using h'
  | cons w rest =>
    rw [List.getLast?_cons_cons] at h'
    rw [h']
    rfl

theorem getLast?_sleepAmongMoments (s : Session) (deadline : Option Nat) (ms : Nat)
    (others : List (Nat × SideEffect)) :
    (s :: s.sleepAmongMoments deadline ms others).getLast? = some (s.sleepAmong deadline ms others).1 := by
  induction others generalizing s ms with
  | nil => exact getLast?_sleepMoments s deadline ms
  | cons act rest ih =>
    obtain ⟨gap, effect⟩ := act
    unfold sleepAmongMoments sleepAmong
    dsimp only
    split
    · exact getLast?_sleepMoments s deadline _
    · refine getLast?_append_of (getLast?_sleepMoments s deadline gap) ?_
      rcases s.sleep deadline gap with ⟨woken, _ | _⟩
      · rfl
      · rw [List.getLast?_cons_cons]
        exact ih _ _

theorem getLast?_sideMoments (s : Session) (effects : List SideEffect) :
    (s :: s.sideMoments effects).getLast? = some (effects.foldl sideEffect s) := by
  induction effects generalizing s with
  | nil => rfl
  | cons effect rest ih =>
    unfold sideMoments
    rw [List.getLast?_cons_cons]
    exact ih _

/-- The last moment of a call is that of its answer. -/
theorem Answers.getLast?_moments {deadline : Option Nat} {s : Session} {run : Run} {script : CallScript}
    {a : Attempt} (h : Answers deadline s run script a) : (a.moments deadline).getLast? = some a.answered := by
  obtain ⟨woken, hsleep, hanswered⟩ := h.answered
  have hlast := getLast?_sleepAmongMoments a.begun deadline a.step.takes a.step.during
  unfold Attempt.moments
  rw [h.begun, hsleep] at *
  rw [hanswered]
  exact getLast?_append_of hlast (getLast?_sideMoments woken a.step.side)

end Session

end Failsafe
