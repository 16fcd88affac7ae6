import Failsafe.Proofs.Session.Sleep

/-!
# A run, attempt by attempt

`Session.runCalls` is one recursion that sleeps, calls, observes and decides. `Unfolds` is the same recursion as
a relation, one rule for each way an attempt can end, and with the attempts themselves as a list: what the
session was when the call began (`begun`) and when it had answered (`answered`). `runCalls_unfolds` says that
every run unfolds, so that what holds of all runs can be shown by induction on the rules.

The rules leave sleeps, acts of others and what the executor makes of an answer, so a relation that goes along with
these goes along with a run (`ThroughSleep.unfolds`). Between the steps of the executor only the breaker and the halt
flag change; `Executor.SameBooks` says what does not.
-/

namespace Failsafe

/-- The executor `e'` has the rules of `e`. -/
structure Executor.SameRules (e e' : Executor) : Prop where
  limits : e'.limits = e.limits
  policy : e'.policy = e.policy
  redactor : e'.redactor = e.redactor

/-- The executor `e'` has the rules of `e` and what `e` has recorded; breaker and halt flag may differ. -/
structure Executor.SameBooks (e e' : Executor) : Prop extends Executor.SameRules e e' where
  history : e'.history = e.history

namespace Executor

theorem SameRules.trans {e e' e'' : Executor} (h : SameRules e e') (h' : SameRules e' e'') : SameRules e e'' :=
  ⟨h'.limits.trans h.limits, h'.policy.trans h.policy, h'.redactor.trans h.redactor⟩

theorem SameBooks.trans {e e' e'' : Executor} (h : SameBooks e e') (h' : SameBooks e' e'') : SameBooks e e'' :=
  ⟨h.toSameRules.trans h'.toSameRules, h'.history.trans h.history⟩

theorem SameBooks.refl (e : Executor) : SameBooks e e := ⟨⟨rfl, rfl, rfl⟩, rfl⟩

theorem Aged.sameBooks {e e' : Executor} (h : Aged e e') : SameBooks e e' := by
  obtain ⟨times, rfl⟩ := h
  exact ⟨⟨rfl, rfl, rfl⟩, rfl⟩

theorem observe_action (e : Executor) (incident : Incident) :
    (e.observe incident).2.2 = e.policy.decide incident e.breaker.active := by
  unfold observe
  dsimp only
  split <;> rfl

theorem observe_rules (e : Executor) (incident : Incident) : SameRules e (e.observe incident).1 := by
  unfold observe
  dsimp only
  split <;> exact ⟨rfl, rfl, rfl⟩

theorem observe_history (e : Executor) (incident : Incident) :
    (e.observe incident).1.history = e.history.record incident := by
  unfold observe
  dsimp only
  split <;> rfl

theorem observe_breaker (e : Executor) (incident : Incident) : (e.observe incident).1.breaker = e.breaker := by
  unfold observe
  dsimp only
  split <;> rfl

theorem giveUp_breaker (e : Executor) (now : Nat) (incident : Incident) (action : Action) :
    (e.giveUp now incident action).1.breaker = e.breaker.recordFailure now := by
  unfold giveUp
  dsimp only
  split <;> rfl

theorem giveUp_rules (e : Executor) (now : Nat) (incident : Incident) (action : Action) :
    SameRules e (e.giveUp now incident action).1 := by
  unfold giveUp
  dsimp only
  split <;> exact ⟨rfl, rfl, rfl⟩

theorem giveUp_history (e : Executor) (now : Nat) (incident : Incident) (action : Action) :
    (e.giveUp now incident action).1.history =
      if action.escalate then e.history.recordEscalation else e.history := by
  unfold giveUp
  dsimp only
  split <;> rfl

end Executor

open Executor

namespace Session

/-- An attempt of a run whose call has answered. -/
structure Attempt where
  /-- The session when the call began. -/
  begun : Session
  /-- The run when the call began. -/
  run : Run
  step : CallStep
  /-- The session when the call had answered. -/
  answered : Session

namespace Attempt

variable (a : Attempt)

def call : Call := ⟨a.begun.now, a.run.params⟩

/-- The incident of a failure of this attempt. -/
def incident (failure : Failure) : Incident := a.answered.executor.incident a.run failure

/-- What the policy decides about a failure of this attempt. -/
def action (failure : Failure) : Action :=
  a.answered.executor.policy.decide (a.incident failure) a.answered.executor.breaker.active

/-- The session once a failure of this attempt has been taken note of. -/
def observed (failure : Failure) : Session :=
  let (executor, events, _) := a.answered.executor.observe (a.incident failure)
  { a.answered with executor }.emit events

/-- Whether the run goes on after a failure of this attempt. -/
def goesOn (limit : Nat) (failure : Failure) : Prop :=
  (a.action failure).shouldRetry = true ∧ a.run.attempt + 1 < limit

instance (limit : Nat) (failure : Failure) : Decidable (a.goesOn limit failure) :=
  inferInstanceAs (Decidable (_ ∧ _))

/-- The session once the run has given up after a failure of this attempt. -/
def givenUp (failure : Failure) : Session :=
  let s := a.observed failure
  let (executor, events) := s.executor.giveUp s.now (a.incident failure) (a.action failure)
  { s with executor }.emit events

/-- The session once the run has ended with the value of this attempt. -/
def succeeded : Session := { a.answered with executor := a.answered.executor.succeed }

theorem observed_rules (failure : Failure) : SameRules a.answered.executor (a.observed failure).executor :=
  observe_rules _ _

theorem observed_history (failure : Failure) :
    (a.observed failure).executor.history = a.answered.executor.history.record (a.incident failure) :=
  observe_history _ _

theorem givenUp_history (failure : Failure) :
    (a.givenUp failure).executor.history =
      if (a.action failure).escalate then (a.observed failure).executor.history.recordEscalation
      else (a.observed failure).executor.history := giveUp_history _ _ _ _

theorem observed_breaker (failure : Failure) :
    (a.observed failure).executor.breaker = a.answered.executor.breaker := observe_breaker _ _

theorem givenUp_breaker (failure : Failure) :
    (a.givenUp failure).executor.breaker = a.answered.executor.breaker.recordFailure a.answered.now := by
  rw [← a.observed_breaker failure]
  exact giveUp_breaker _ _ _ _

end Attempt

/-- The attempt `a` is the next of a run, and its call answers before the deadline. -/
structure Answers (deadline : Option Nat) (s : Session) (run : Run) (script : CallScript) (a : Attempt) :
    Prop where
  begun : a.begun = s
  run : a.run = run
  step : a.step = script.next.1
  answered : ∃ woken, s.sleepAmong deadline a.step.takes a.step.during = (woken, true) ∧
    a.answered = a.step.side.foldl sideEffect woken

/-- From here on a run goes through attempts and ends in a session, with calls and an outcome. -/
inductive Unfolds (deadline : Option Nat) (limit : Nat) :
    Session → Run → CallScript → List Attempt → Session → List Call → RunOutcome → Prop
  /-- The deadline comes while the call is under way. -/
  | dropped {s run script s'} (h : s.sleepAmong deadline script.next.1.takes script.next.1.during = (s', false)) :
    Unfolds deadline limit s run script [] s' [⟨s.now, run.params⟩] .cancelled
  | succeeded {s run script a value} (h : Answers deadline s run script a) (hresult : a.step.result = .ok value) :
    Unfolds deadline limit s run script [a] a.succeeded [a.call] (.value value)
  | gaveUp {s run script a failure} (h : Answers deadline s run script a)
    (hresult : a.step.result = .error failure) (hends : ¬ a.goesOn limit failure) :
    Unfolds deadline limit s run script [a] (a.givenUp failure) [a.call]
      (.stopped (.failed run.operation failure (run.attempt + 1) (a.action failure)))
  /-- The deadline comes before the next call. -/
  | droppedWaiting {s run script a failure s'} (h : Answers deadline s run script a)
    (hresult : a.step.result = .error failure) (hgoes : a.goesOn limit failure)
    (hsleep : (a.observed failure).sleepAmong deadline (a.action failure).delay.millisUp a.step.between =
      (s', false)) :
    Unfolds deadline limit s run script [a] s' [a.call] .cancelled
  | retried {s run script a failure s' rest s'' calls outcome} (h : Answers deadline s run script a)
    (hresult : a.step.result = .error failure) (hgoes : a.goesOn limit failure)
    (hsleep : (a.observed failure).sleepAmong deadline (a.action failure).delay.millisUp a.step.between =
      (s', true))
    (hrest : Unfolds deadline limit s' (Executor.advance run (a.action failure)) script.next.2 rest s'' calls
      outcome) :
    Unfolds deadline limit s run script (a :: rest) s'' (a.call :: calls) outcome

/-! ## What a run goes through -/

/-- The relation of a session to what becomes of it goes along with sleeps and with the acts of others. -/
structure ThroughSleep (R : Session → Session → Prop) : Prop where
  refl : ∀ s, R s s
  trans : ∀ {s s' s''}, R s s' → R s' s'' → R s s''
  sleep : ∀ s deadline ms, R s (s.sleep deadline ms).1
  sideEffect : ∀ s effect, R s (s.sideEffect effect)

namespace ThroughSleep

variable {R : Session → Session → Prop} (h : ThroughSleep R)
include h

theorem sideEffects (s : Session) (effects : List SideEffect) : R s (effects.foldl Session.sideEffect s) := by
  induction effects generalizing s with
  | nil => exact h.refl s
  | cons effect rest ih => exact h.trans (h.sideEffect s effect) (ih _)

theorem sleepAmong (s : Session) (deadline : Option Nat) (ms : Nat) (others : List (Nat × SideEffect)) :
    R s (s.sleepAmong deadline ms others).1 := by
  induction others generalizing s ms with
  | nil => exact h.sleep s deadline ms
  | cons act rest ih =>
    obtain ⟨gap, effect⟩ := act
    have hgap := h.sleep s deadline gap
    unfold Session.sleepAmong
    dsimp only
    split
    · exact h.sleep s deadline _
    · rcases hsleep : s.sleep deadline gap with ⟨woken, _ | _⟩
      · rw [hsleep] at hgap
        exact hgap
      · rw [hsleep] at hgap
        exact h.trans (h.trans hgap (h.sideEffect woken effect)) (ih _ _)

theorem answers {deadline : Option Nat} {s : Session} {run : Run} {script : CallScript} {a : Attempt}
    (hanswers : Answers deadline s run script a) : R s a.answered := by
  obtain ⟨woken, hsleep, hanswered⟩ := hanswers.answered
  have hslept := h.sleepAmong s deadline a.step.takes a.step.during
  rw [hsleep] at hslept
  rw [hanswered]
  exact h.trans hslept (h.sideEffects woken a.step.side)

/-- A run is a chain of sleeps and acts of others, and of what the executor makes of the answers. -/
theorem unfolds {deadline : Option Nat} {limit : Nat} {s s' : Session} {run : Run} {script : CallScript}
    {attempts : List Attempt} {calls : List Call} {outcome : RunOutcome}
    (hobserved : ∀ (a : Attempt) failure, R a.answered (a.observed failure))
    (hgivenUp : ∀ (a : Attempt) failure, R (a.observed failure) (a.givenUp failure))
    (hsucceeded : ∀ a : Attempt, R a.answered a.succeeded)
    (hunfolds : Unfolds deadline limit s run script attempts s' calls outcome) : R s s' := by
  induction hunfolds with
  | @dropped s run script s' hsleep =>
    have hslept := h.sleepAmong s deadline script.next.1.takes script.next.1.during
    rw [hsleep] at hslept
    exact hslept
  | @succeeded s run script a value hanswers hresult => exact h.trans (h.answers hanswers) (hsucceeded a)
  | @gaveUp s run script a failure hanswers hresult hends =>
    exact h.trans (h.trans (h.answers hanswers) (hobserved a failure)) (hgivenUp a failure)
  | @droppedWaiting s run script a failure s' hanswers hresult hgoes hsleep =>
    have hslept := h.sleepAmong (a.observed failure) deadline (a.action failure).delay.millisUp a.step.between
    rw [hsleep] at hslept
    exact h.trans (h.trans (h.answers hanswers) (hobserved a failure)) hslept
  | @retried s run script a failure s' rest s'' calls outcome hanswers hresult hgoes hsleep hrest ih =>
    have hslept := h.sleepAmong (a.observed failure) deadline (a.action failure).delay.millisUp a.step.between
    rw [hsleep] at hslept
    exact h.trans (h.trans (h.trans (h.answers hanswers) (hobserved a failure)) hslept) ih

end ThroughSleep

theorem throughSleep_sameBooks : ThroughSleep fun s s' => SameBooks s.executor s'.executor where
  refl := fun s => .refl s.executor
  trans := SameBooks.trans
  sleep := fun s deadline ms => (s.sleep_aged deadline ms).sameBooks
  sideEffect := fun s effect => by cases effect <;> exact ⟨⟨rfl, rfl, rfl⟩, rfl⟩

theorem sideEffects_sameBooks (s : Session) (effects : List SideEffect) :
    SameBooks s.executor (effects.foldl sideEffect s).executor :=
  throughSleep_sameBooks.sideEffects s effects

/-- While a run sleeps others change nothing but the breaker and the halt flag. -/
theorem sleepAmong_sameBooks (s : Session) (deadline : Option Nat) (ms : Nat) (others : List (Nat × SideEffect)) :
    SameBooks s.executor (s.sleepAmong deadline ms others).1.executor :=
  throughSleep_sameBooks.sleepAmong s deadline ms others

/-- And so it is until a call has answered. -/
theorem Answers.sameBooks {deadline : Option Nat} {s : Session} {run : Run} {script : CallScript} {a : Attempt}
    (h : Answers deadline s run script a) : SameBooks s.executor a.answered.executor :=
  throughSleep_sameBooks.answers h

/-! ## Runs unfold -/

/-- What a run does once its next call has answered. -/
theorem runCalls_answered {deadline : Option Nat} {limit : Nat} {s : Session} {run : Run} {script : CallScript}
    {a : Attempt} (h : Answers deadline s run script a) :
    s.runCalls deadline limit run script =
      match a.step.result with
      | .ok value => (a.succeeded, [a.call], .value value)
      | .error failure =>
        if a.goesOn limit failure then
          match (a.observed failure).sleepAmong deadline (a.action failure).delay.millisUp a.step.between with
          | (s, false) => (s, [a.call], .cancelled)
          | (s, true) =>
            let (s, calls, outcome) :=
              runCalls deadline limit s (Executor.advance run (a.action failure)) script.next.2
            (s, a.call :: calls, outcome)
        else
          (a.givenUp failure, [a.call],
            .stopped (.failed run.operation failure (run.attempt + 1) (a.action failure))) := by
  obtain ⟨begun, run', step, answered⟩ := a
  obtain ⟨rfl, rfl, rfl, woken, hsleep, hanswered⟩ := h
  dsimp only at hsleep hanswered
  subst hanswered
  rw [runCalls]
  dsimp only
  rw [hsleep]
  dsimp only
  cases hresult : script.next.1.result with
  | ok value => rfl
  | error failure =>
    simp only [observe_action]
    rfl

/-- Every run unfolds. -/
theorem runCalls_unfolds {deadline : Option Nat} {limit : Nat} {s s' : Session} {run : Run} {script : CallScript}
    {calls : List Call} {outcome : RunOutcome}
    (h : s.runCalls deadline limit run script = (s', calls, outcome)) :
    ∃ attempts, Unfolds deadline limit s run script attempts s' calls outcome := by
  rcases hsleep : s.sleepAmong deadline script.next.1.takes script.next.1.during with ⟨woken, _ | _⟩
  · -- The call does not answer in time.
    rw [runCalls] at h
    dsimp only at h
    rw [hsleep] at h
    obtain ⟨rfl, rfl, rfl⟩ : woken = s' ∧ [⟨s.now, run.params⟩] = calls ∧ .cancelled = outcome := by
      simpa using h
    exact ⟨[], .dropped hsleep⟩
  · let a : Attempt := ⟨s, run, script.next.1, script.next.1.side.foldl sideEffect woken⟩
    have hanswers : Answers deadline s run script a := ⟨rfl, rfl, rfl, woken, hsleep, rfl⟩
    rw [runCalls_answered hanswers] at h
    cases hresult : a.step.result with
    | ok value =>
      rw [hresult] at h
      obtain ⟨rfl, rfl, rfl⟩ : a.succeeded = s' ∧ [a.call] = calls ∧ .value value = outcome := by simpa using h
      exact ⟨[a], .succeeded hanswers hresult⟩
    | error failure =>
      rw [hresult] at h
      dsimp only at h
      by_cases hgoes : a.goesOn limit failure
      · rw [if_pos hgoes] at h
        rcases hwait : (a.observed failure).sleepAmong deadline (a.action failure).delay.millisUp a.step.between
          with ⟨next, _ | _⟩
        · rw [hwait] at h
          obtain ⟨rfl, rfl, rfl⟩ : next = s' ∧ [a.call] = calls ∧ .cancelled = outcome := by simpa using h
          exact ⟨[a], .droppedWaiting hanswers hresult hgoes hwait⟩
        · rw [hwait] at h
          dsimp only at h
          -- The rest of the run has one attempt less before it.
          have hdecreases : run.attempt + 1 < limit := hgoes.2
          rcases hrest : runCalls deadline limit next (Executor.advance run (a.action failure)) script.next.2
            with ⟨last, later, ending⟩
          rw [hrest] at h
          obtain ⟨rfl, rfl, rfl⟩ : last = s' ∧ a.call :: later = calls ∧ ending = outcome := by simpa using h
          obtain ⟨rest, hunfolds⟩ := runCalls_unfolds hrest
          exact ⟨a :: rest, .retried hanswers hresult hgoes hwait hunfolds⟩
      · rw [if_neg hgoes] at h
        obtain ⟨rfl, rfl, rfl⟩ : a.givenUp failure = s' ∧ [a.call] = calls ∧ _ = outcome := by simpa using h
        exact ⟨[a], .gaveUp hanswers hresult hgoes⟩
termination_by limit - run.attempt
decreasing_by
  show limit - (run.attempt + 1) < limit - run.attempt
  omega

/-- What a run unfolds into is what it does. -/
theorem Unfolds.runCalls_eq {deadline : Option Nat} {limit : Nat} {s s' : Session} {run : Run} {script : CallScript}
    {attempts : List Attempt} {calls : List Call} {outcome : RunOutcome}
    (h : Unfolds deadline limit s run script attempts s' calls outcome) :
    s.runCalls deadline limit run script = (s', calls, outcome) := by
  induction h with
  | dropped hsleep =>
    rw [runCalls]
    dsimp only
    rw [hsleep]
  | succeeded hanswers hresult => rw [runCalls_answered hanswers, hresult]
  | gaveUp hanswers hresult hends =>
    rw [runCalls_answered hanswers, hresult]
    dsimp only
    rw [if_neg hends]
  | droppedWaiting hanswers hresult hgoes hsleep =>
    rw [runCalls_answered hanswers, hresult]
    dsimp only
    rw [if_pos hgoes, hsleep]
  | retried hanswers hresult hgoes hsleep hrest ih =>
    rw [runCalls_answered hanswers, hresult]
    dsimp only
    rw [if_pos hgoes, hsleep]
    dsimp only
    rw [ih]

end Session

end Failsafe
