import Failsafe.Proofs.Recovery.Decision
import Failsafe.Proofs.Session.Completion
import Failsafe.Proofs.Session.Course
import Failsafe.Proofs.Session.Outside

/-!
# A run that is dropped

A run can be dropped whenever it sleeps: while a call is under way, or between two calls. Up to that moment it is the run
that it would have been without a deadline (`Unfolds.undropped`): whatever would begin or answer later does not happen.

A failure is recorded as soon as it is there, and what comes of it only when the run ends. A run that goes on after a
failure has therefore done nothing but record it (`Attempt.observed_executor`), so that the executor it leaves behind
is that of the others and its own records (`Unfolds.undergoes`).
-/

namespace Failsafe

open Executor

/-- What is to be tried again is no reason to stop trading. -/
theorem Policy.stopTrading_of_shouldRetry {policy : Policy} {incident : Incident} {active : Bool}
    (h : (policy.decide incident active).shouldRetry = true) : (policy.decide incident active).stopTrading = false := by
  rw [← Bool.not_eq_true]
  intro hstops
  rw [(coherent_decide policy incident active).stops hstops] at h
  cases h

namespace Session

/-! ## What the run and the others do -/

namespace Attempt

variable (a : Attempt)

/-- A run that goes on after a failure has done nothing but record it. -/
theorem observed_executor {limit : Nat} {failure : Failure} (h : a.goesOn limit failure) :
    (a.observed failure).executor =
      { a.answered.executor with history := a.answered.executor.history.record (a.incident failure) } := by
  have hgoes : (a.answered.executor.policy.decide (a.incident failure)
      a.answered.executor.breaker.active).stopTrading = false := Policy.stopTrading_of_shouldRetry h.1
  show (a.answered.executor.observe (a.incident failure)).1 = _
  unfold observe
  dsimp only
  rw [if_neg (by simp [hgoes])]

/-- The session once the wait for the next call is over, and whether the wait came to its end. -/
def waited (deadline : Option Nat) (failure : Failure) : Session × Bool :=
  (a.observed failure).sleepAmong deadline (a.action failure).delay.millisUp a.step.between

/-- What others do while the run waits for its next call. -/
def waitActs (deadline : Option Nat) (failure : Failure) : List SideEffect :=
  (a.observed failure).actsAmong deadline (a.action failure).delay.millisUp a.step.between

end Attempt

/-- What others do, from here on, in the course of a run that is dropped after some attempts. -/
def actsThrough (deadline : Option Nat) (s : Session) (script : CallScript) : List Attempt → List SideEffect
  | [] => s.actsAmong deadline script.next.1.takes script.next.1.during
  | a :: rest =>
    a.acts deadline ++
      match a.step.result with
      | .ok _ => []
      | .error failure =>
        a.waitActs deadline failure ++
          match a.waited deadline failure with
          | (_, false) => []
          | (next, true) => actsThrough deadline next script.next.2 rest

variable {deadline : Option Nat} {limit : Nat} {s s' : Session} {run : Run} {script : CallScript} {a : Attempt}
  {attempts : List Attempt} {calls : List Call} {outcome : RunOutcome}

/-- From one call to the end of the wait for the next one. -/
theorem Answers.undergoes_waited {failure : Failure} (h : Answers deadline s run script a)
    (hgoes : a.goesOn limit failure) (history : History) :
    Undergoes { s.executor with history } (a.acts deadline ++ a.waitActs deadline failure)
      { (a.waited deadline failure).1.executor with history } := by
  have hcall := h.undergoes.withHistory history
  have hwait := ((a.observed failure).sleepAmong_undergoes deadline (a.action failure).delay.millisUp
    a.step.between).withHistory history
  rw [a.observed_executor hgoes] at hwait
  exact hcall.trans hwait

/-- A run that is dropped does nothing to the executor but add to the history. -/
theorem Unfolds.undergoes (h : Unfolds deadline limit s run script attempts s' calls outcome)
    (hdropped : outcome = .cancelled) :
    Undergoes { s.executor with history := s'.executor.history } (s.actsThrough deadline script attempts)
      s'.executor := by
  induction h with
  | @dropped s run script s' hsleep =>
    have hcall := s.sleepAmong_undergoes deadline script.next.1.takes script.next.1.during
    rw [hsleep] at hcall
    exact hcall.withHistory s'.executor.history
  | succeeded hanswers hresult => exact absurd hdropped (by simp)
  | gaveUp hanswers hresult hends => exact absurd hdropped (by simp)
  | @droppedWaiting s run script a failure s' hanswers hresult hgoes hsleep =>
    have hwaited := hanswers.undergoes_waited hgoes s'.executor.history
    have hsleep : a.waited deadline failure = (s', false) := hsleep
    unfold actsThrough
    rw [hresult]
    dsimp only
    rw [hsleep] at hwaited ⊢
    rw [List.append_nil]
    exact hwaited
  | @retried s run script a failure next rest s'' calls outcome hanswers hresult hgoes hsleep hrest ih =>
    have hwaited := hanswers.undergoes_waited hgoes s''.executor.history
    have hsleep : a.waited deadline failure = (next, true) := hsleep
    unfold actsThrough
    rw [hresult]
    dsimp only
    rw [hsleep] at hwaited ⊢
    rw [← List.append_assoc]
    exact hwaited.trans (ih hdropped)

/-- All attempts of a run that is dropped have failed. -/
theorem Unfolds.failed_of_dropped (h : Unfolds deadline limit s run script attempts s' calls outcome)
    (hdropped : outcome = .cancelled) : ∀ a ∈ attempts, ∃ failure, a.step.result = .error failure := by
  induction h with
  | dropped hsleep => exact fun a ha => absurd ha List.not_mem_nil
  | succeeded hanswers hresult => exact absurd hdropped (by simp)
  | gaveUp hanswers hresult hends => exact absurd hdropped (by simp)
  | droppedWaiting hanswers hresult hgoes hsleep =>
    intro b hb
    rw [List.mem_singleton.mp hb]
    exact ⟨_, hresult⟩
  | retried hanswers hresult hgoes hsleep hrest ih =>
    intro b hb
    rcases List.mem_cons.mp hb with rfl | hb
    · exact ⟨_, hresult⟩
    · exact ih hdropped b hb

/-! ## Up to the drop -/

theorem sideEffect_now (s : Session) (effect : SideEffect) : (s.sideEffect effect).now = s.now := by
  cases effect <;> rfl

theorem sideEffects_now (s : Session) (effects : List SideEffect) : (effects.foldl sideEffect s).now = s.now := by
  induction effects generalizing s with
  | nil => rfl
  | cons effect rest ih => exact (ih _).trans (s.sideEffect_now effect)

theorem sleepTo_now (s : Session) (time : Nat) : (s.sleepTo time).now = max s.now time := by
  unfold sleepTo
  split
  · exact (Nat.max_eq_right (Nat.le_of_lt ‹_›)).symm
  · exact (Nat.max_eq_left (Nat.not_lt.mp ‹_›)).symm

theorem le_now_sleep (s : Session) (deadline : Option Nat) (ms : Nat) : s.now ≤ (s.sleep deadline ms).1.now := by
  unfold sleep
  dsimp only
  split
  · split <;> (rw [sleepTo_now]; exact Nat.le_max_left _ _)
  · rw [sleepTo_now]
    exact Nat.le_max_left _ _

theorem throughSleep_le_now : ThroughSleep fun s s' => s.now ≤ s'.now where
  refl := fun s => Nat.le_refl s.now
  trans := Nat.le_trans
  sleep := le_now_sleep
  sideEffect := fun s effect => Nat.le_of_eq (s.sideEffect_now effect).symm

variable {d ms : Nat} {others : List (Nat × SideEffect)}

/-- A sleeper who wakes before the deadline wakes as if there were none. -/
theorem sleep_woken (h : s.sleep (some d) ms = (s', true)) (hnow : s.now ≤ d) :
    s'.now ≤ d ∧ s.sleep none ms = (s', true) := by
  unfold sleep at h ⊢
  dsimp only at h ⊢
  split at h
  next hle =>
    obtain ⟨rfl, -⟩ := Prod.mk.inj h
    rw [sleepTo_now]
    exact ⟨Nat.max_le.mpr ⟨hnow, hle⟩, rfl⟩
  next => exact absurd (congrArg Prod.snd h) (by simp)

/-- A sleeper who is dropped would have woken later. -/
theorem sleep_dropped (h : s.sleep (some d) ms = (s', false)) (hnow : s.now ≤ d) :
    s'.now = d ∧ d < (s.sleep none ms).1.now := by
  unfold sleep at h ⊢
  dsimp only at h ⊢
  split at h
  next => exact absurd (congrArg Prod.snd h) (by simp)
  next hlt =>
    obtain ⟨rfl, -⟩ := Prod.mk.inj h
    rw [sleepTo_now, sleepTo_now]
    omega

theorem sleepAmong_woken (h : s.sleepAmong (some d) ms others = (s', true)) (hnow : s.now ≤ d) :
    s'.now ≤ d ∧ s.sleepAmong none ms others = (s', true) := by
  induction others generalizing s ms with
  | nil => exact sleep_woken h hnow
  | cons act rest ih =>
    obtain ⟨gap, effect⟩ := act
    unfold sleepAmong at h ⊢
    dsimp only at h ⊢
    split at h
    next hgap =>
      rw [if_pos hgap]
      exact sleep_woken h hnow
    next hgap =>
      rw [if_neg hgap]
      rcases hsleep : s.sleep (some d) gap with ⟨woken, _ | _⟩
      · rw [hsleep] at h
        exact absurd (congrArg Prod.snd h) (by simp)
      · obtain ⟨hle, hnone⟩ := sleep_woken hsleep hnow
        rw [hsleep] at h
        rw [hnone]
        exact ih h (by rw [sideEffect_now]; exact hle)

theorem sleepAmong_dropped (h : s.sleepAmong (some d) ms others = (s', false)) (hnow : s.now ≤ d) :
    s'.now = d ∧ d < (s.sleepAmong none ms others).1.now := by
  induction others generalizing s ms with
  | nil => exact sleep_dropped h hnow
  | cons act rest ih =>
    obtain ⟨gap, effect⟩ := act
    unfold sleepAmong at h ⊢
    dsimp only at h ⊢
    split at h
    next hgap =>
      rw [if_pos hgap]
      exact sleep_dropped h hnow
    next hgap =>
      rw [if_neg hgap]
      rcases hsleep : s.sleep (some d) gap with ⟨woken, _ | _⟩
      · -- The sleeper is dropped before the others act; without a deadline he would go on from there.
        obtain ⟨hdropped, hlt⟩ := sleep_dropped hsleep hnow
        rw [hsleep] at h
        obtain ⟨rfl, -⟩ := Prod.mk.inj h
        refine ⟨hdropped, Nat.lt_of_lt_of_le hlt ?_⟩
        have hrest := throughSleep_le_now.sleepAmong ((s.sleep none gap).1.sideEffect effect) none
          (s.clock.lasts s.now ms - gap) rest
        rw [sideEffect_now] at hrest
        exact hrest
      · obtain ⟨hle, hnone⟩ := sleep_woken hsleep hnow
        rw [hsleep] at h
        rw [hnone]
        exact ih h (by rw [sideEffect_now]; exact hle)

/-- A call that answers before the deadline answers as if there were none. -/
theorem Answers.undropped (h : Answers (some d) s run script a) (hnow : s.now ≤ d) :
    a.answered.now ≤ d ∧ Answers none s run script a := by
  obtain ⟨woken, hsleep, hanswered⟩ := h.answered
  obtain ⟨hle, hnone⟩ := sleepAmong_woken hsleep hnow
  rw [hanswered, sideEffects_now]
  exact ⟨hle, h.begun, h.run, h.step, woken, hnone, hanswered⟩

theorem Answers.le_now (h : Answers deadline s run script a) : s.now ≤ a.answered.now := throughSleep_le_now.answers h

/-- Nothing of a run is before its beginning. -/
theorem Unfolds.le_now (h : Unfolds deadline limit s run script attempts s' calls outcome) :
    (∀ call ∈ calls, s.now ≤ call.time) ∧ ∀ a ∈ attempts, s.now ≤ a.answered.now := by
  have hsingle : ∀ {s run script} {a : Attempt}, Answers deadline s run script a →
      (∀ call ∈ [a.call], s.now ≤ call.time) ∧ ∀ b ∈ [a], s.now ≤ b.answered.now := by
    intro s run script a hanswers
    refine ⟨fun call hcall => ?_, fun b hb => ?_⟩
    · obtain rfl := List.mem_singleton.mp hcall
      exact Nat.le_of_eq (congrArg now hanswers.begun).symm
    · rw [List.mem_singleton.mp hb]
      exact hanswers.le_now
  induction h with
  | dropped hsleep =>
    refine ⟨fun call hcall => ?_, fun a ha => absurd ha List.not_mem_nil⟩
    obtain rfl := List.mem_singleton.mp hcall
    exact Nat.le_refl _
  | succeeded hanswers hresult => exact hsingle hanswers
  | gaveUp hanswers hresult hends => exact hsingle hanswers
  | droppedWaiting hanswers hresult hgoes hsleep => exact hsingle hanswers
  | @retried s run script a failure next rest s'' calls outcome hanswers hresult hgoes hsleep hrest ih =>
    obtain ⟨hcall, ha⟩ := hsingle hanswers
    have hwait := throughSleep_le_now.sleepAmong (a.observed failure) deadline (a.action failure).delay.millisUp
      a.step.between
    rw [hsleep] at hwait
    have hnext : s.now ≤ next.now := Nat.le_trans hanswers.le_now hwait
    refine ⟨fun call hmem => ?_, fun b hmem => ?_⟩
    · rcases List.mem_cons.mp hmem with rfl | hmem
      · exact hcall _ List.mem_cons_self
      · exact Nat.le_trans hnext (ih.1 call hmem)
    · rcases List.mem_cons.mp hmem with rfl | hmem
      · exact ha _ List.mem_cons_self
      · exact Nat.le_trans hnext (ih.2 b hmem)

/-- What a run does from here on, when nobody drops it. -/
theorem attemptsFrom_le_now (limit : Nat) (s : Session) (run : Run) (script : CallScript) :
    (∀ call ∈ (s.runCalls none limit run script).2.1, s.now ≤ call.time) ∧
      ∀ a ∈ attemptsFrom none limit s run script, s.now ≤ a.answered.now := by
  obtain ⟨attempts, hunfolds⟩ := runCalls_unfolds (rfl : s.runCalls none limit run script = _)
  rw [hunfolds.attempts_eq]
  exact hunfolds.le_now

/-- After a call that is to be tried again, a run that nobody drops waits and goes on. -/
theorem Answers.goes_on {failure : Failure} (h : Answers none s run script a) (hresult : a.step.result = .error failure)
    (hgoes : a.goesOn limit failure) :
    attemptsFrom none limit s run script = a :: attemptsFrom none limit (a.waited none failure).1
        (Executor.advance run (a.action failure)) script.next.2 ∧
      (s.runCalls none limit run script).2.1 = a.call :: ((a.waited none failure).1.runCalls none limit
        (Executor.advance run (a.action failure)) script.next.2).2.1 := by
  have hwoken : (a.waited none failure).2 = true := (a.observed failure).sleepAmong_none _ a.step.between
  rw [attemptsFrom_answered h, runCalls_answered h, hresult]
  dsimp only
  rw [if_pos hgoes, if_pos hgoes]
  unfold Attempt.waited at hwoken ⊢
  rcases hsleep : (a.observed failure).sleepAmong none (a.action failure).delay.millisUp a.step.between with
    ⟨next, _ | _⟩
  · rw [hsleep] at hwoken
    exact absurd hwoken (by simp)
  · exact ⟨rfl, rfl⟩

/-- The rest of a run that nobody drops comes after the answer of its next call. -/
theorem Answers.rest (h : Answers none s run script a) (limit : Nat) :
    ∃ laterAttempts laterCalls, attemptsFrom none limit s run script = a :: laterAttempts ∧
      (s.runCalls none limit run script).2.1 = a.call :: laterCalls ∧
      (∀ b ∈ laterAttempts, a.answered.now ≤ b.answered.now) ∧ ∀ call ∈ laterCalls, a.answered.now ≤ call.time := by
  cases hresult : a.step.result with
  | ok value =>
    rw [attemptsFrom_answered h, runCalls_answered h, hresult]
    exact ⟨[], [], rfl, rfl, List.forall_mem_nil _, List.forall_mem_nil _⟩
  | error failure =>
    by_cases hgoes : a.goesOn limit failure
    · obtain ⟨hattempts, hcalls⟩ := h.goes_on hresult hgoes
      have hwait : a.answered.now ≤ (a.waited none failure).1.now :=
        throughSleep_le_now.sleepAmong (a.observed failure) none _ a.step.between
      obtain ⟨hlaterCalls, hlater⟩ := attemptsFrom_le_now limit (a.waited none failure).1
        (Executor.advance run (a.action failure)) script.next.2
      exact ⟨_, _, hattempts, hcalls, fun b hb => Nat.le_trans hwait (hlater b hb),
        fun call hcall => Nat.le_trans hwait (hlaterCalls call hcall)⟩
    · rw [attemptsFrom_answered h, runCalls_answered h, hresult]
      dsimp only
      rw [if_neg hgoes, if_neg hgoes]
      exact ⟨[], [], rfl, rfl, List.forall_mem_nil _, List.forall_mem_nil _⟩

/-- Up to the deadline a run that is dropped is the run that it would have been without. -/
theorem Unfolds.undropped (h : Unfolds (some d) limit s run script attempts s' calls outcome)
    (hdropped : outcome = .cancelled) (hnow : s.now ≤ d) :
    s'.now = d ∧ (∀ call ∈ calls, call.time ≤ d) ∧ (∀ a ∈ attempts, a.answered.now ≤ d) ∧
      ∃ laterAttempts laterCalls, attemptsFrom none limit s run script = attempts ++ laterAttempts ∧
        (s.runCalls none limit run script).2.1 = calls ++ laterCalls ∧
        (∀ a ∈ laterAttempts, d < a.answered.now) ∧ ∀ call ∈ laterCalls, d < call.time := by
  induction h with
  | @dropped s run script s' hsleep =>
    -- Without the deadline the call would have answered, after it.
    obtain ⟨hend, hlt⟩ := sleepAmong_dropped hsleep hnow
    let woken := (s.sleepAmong none script.next.1.takes script.next.1.during).1
    let a : Attempt := ⟨s, run, script.next.1, script.next.1.side.foldl sideEffect woken⟩
    have hanswers : Answers none s run script a :=
      ⟨rfl, rfl, rfl, woken, Prod.ext rfl (s.sleepAmong_none _ script.next.1.during), rfl⟩
    have hanswered : d < a.answered.now := by
      show d < (script.next.1.side.foldl sideEffect woken).now
      rw [sideEffects_now]
      exact hlt
    obtain ⟨laterAttempts, laterCalls, hattempts, hcalls, hlater, hlaterCalls⟩ := hanswers.rest limit
    refine ⟨hend, ?_, List.forall_mem_nil _, a :: laterAttempts, laterCalls, hattempts, hcalls, ?_, ?_⟩
    · intro call hcall
      rw [List.mem_singleton.mp hcall]
      exact hnow
    · intro b hb
      rcases List.mem_cons.mp hb with rfl | hb
      · exact hanswered
      · exact Nat.lt_of_lt_of_le hanswered (hlater b hb)
    · exact fun call hcall => Nat.lt_of_lt_of_le hanswered (hlaterCalls call hcall)
  | succeeded hanswers hresult => exact absurd hdropped (by simp)
  | gaveUp hanswers hresult hends => exact absurd hdropped (by simp)
  | @droppedWaiting s run script a failure s' hanswers hresult hgoes hsleep =>
    obtain ⟨hle, hnone⟩ := hanswers.undropped hnow
    obtain ⟨hend, hlt⟩ := sleepAmong_dropped hsleep hle
    obtain ⟨hattempts, hcalls⟩ := hnone.goes_on hresult hgoes
    obtain ⟨hlaterCalls, hlater⟩ := attemptsFrom_le_now limit (a.waited none failure).1
      (Executor.advance run (a.action failure)) script.next.2
    refine ⟨hend, ?_, ?_, _, _, hattempts, hcalls, fun b hb => Nat.lt_of_lt_of_le hlt (hlater b hb),
      fun call hcall => Nat.lt_of_lt_of_le hlt (hlaterCalls call hcall)⟩
    · intro call hcall
      rw [List.mem_singleton.mp hcall]
      show a.begun.now ≤ d
      rw [hanswers.begun]
      exact hnow
    · intro b hb
      rw [List.mem_singleton.mp hb]
      exact hle
  | @retried s run script a failure next rest s'' calls outcome hanswers hresult hgoes hsleep hrest ih =>
    obtain ⟨hle, hnone⟩ := hanswers.undropped hnow
    obtain ⟨hnext, hwoken⟩ := sleepAmong_woken hsleep hle
    have hwaited : a.waited none failure = (next, true) := hwoken
    obtain ⟨hattempts, hcalls⟩ := hnone.goes_on hresult hgoes
    rw [hwaited] at hattempts hcalls
    obtain ⟨hend, hbefore, hanswered, laterAttempts, laterCalls, hrestAttempts, hrestCalls, hlater⟩ := ih hdropped hnext
    refine ⟨hend, ?_, ?_, laterAttempts, laterCalls, ?_, ?_, hlater⟩
    · intro call hcall
      rcases List.mem_cons.mp hcall with rfl | hcall
      · show a.begun.now ≤ d
        rw [hanswers.begun]
        exact hnow
      · exact hbefore call hcall
    · intro b hb
      rcases List.mem_cons.mp hb with rfl | hb
      · exact hle
      · exact hanswered b hb
    · rw [hattempts, hrestAttempts]
      rfl
    · rw [hcalls, hrestCalls]
      rfl

/-! ## Runs -/

instance (outcome : RunOutcome) : Decidable (outcome = .cancelled) :=
  match outcome with
  | .cancelled => isTrue rfl
  | .value _ => isFalse (by simp)
  | .stopped _ => isFalse (by simp)

/-- Without a deadline no run is dropped. -/
theorem run_completes (s : Session) (request : RunRequest) : (s.run none request).2.2 ≠ .cancelled := by
  cases hactive : s.executor.breaker.active with
  | true =>
    rw [(run_active hactive none request).1]
    simp
  | false => exact ((run_unfolds hactive none request).completes (maxAttempts_pos s.executor)).ne_cancelled

theorem Unfolds.incidents_of_dropped (h : Unfolds deadline limit s run script attempts s' calls outcome)
    (hdropped : outcome = .cancelled) :
    (attempts.filterMap Attempt.incident?).map some = attempts.map Attempt.incident? := by
  suffices hall : ∀ attempts : List Attempt, (∀ a ∈ attempts, ∃ failure, a.step.result = .error failure) →
      (attempts.filterMap Attempt.incident?).map some = attempts.map Attempt.incident? from
    hall attempts (h.failed_of_dropped hdropped)
  intro attempts hfailed
  induction attempts with
  | nil => rfl
  | cons a rest ih =>
    obtain ⟨failure, hresult⟩ := hfailed a List.mem_cons_self
    rw [List.filterMap_cons, List.map_cons, a.incident?_of_error hresult]
    exact congrArg _ (ih fun b hb => hfailed b (List.mem_cons_of_mem _ hb))

/-- **A run that is dropped leaves nothing half done.** Whenever a run is dropped, in a call or between two calls, and
whatever its calls do:

* it has made the calls that it would have made by then anyhow, and makes none of those that would begin later;
* the calls that have answered are those that would have answered by then anyhow. All of them failed, and what the history
  has gained is, in order, the incidents of their failures, and no escalation;
* but for the history, the executor has undergone what others have done to it meanwhile, and nothing else. So the breaker
  has counted only their failures and successes, it was not activated unless by a failure of theirs, and the halt flag is
  set only if it was set before. -/
theorem run_dropped (s : Session) (ms : Nat) (request : RunRequest)
    (hdropped : (s.run (some (s.now + ms)) request).2.2 = .cancelled) :
    let s' := (s.run (some (s.now + ms)) request).1
    let calls := (s.run (some (s.now + ms)) request).2.1
    let attempts := s.attempts (some (s.now + ms)) request
    let others := s.actsThrough (some (s.now + ms)) request.script attempts
    s'.now = s.now + ms ∧
      (∃ later, (s.run none request).2.1 = calls ++ later ∧
        (∀ call ∈ calls, call.time ≤ s'.now) ∧ ∀ call ∈ later, s'.now < call.time) ∧
      (∃ later, s.attempts none request = attempts ++ later ∧
        (∀ a ∈ attempts, a.answered.now ≤ s'.now) ∧ ∀ a ∈ later, s'.now < a.answered.now) ∧
      (∃ incidents : List Incident, attempts.map Attempt.incident? = incidents.map some ∧
        s'.executor.history = incidents.foldl History.record s.executor.history ∧
        s'.executor.history.escalations = s.executor.history.escalations) ∧
      Undergoes { s.executor with history := s'.executor.history } others s'.executor ∧
      s'.executor.breaker.totalFailures = s.executor.breaker.totalFailures + others.count .breakerFailure ∧
      s'.executor.breaker.totalSuccesses = s.executor.breaker.totalSuccesses + others.count .breakerSuccess ∧
      (s.executor.breaker.activations ≤ s'.executor.breaker.activations ∧
        s'.executor.breaker.activations ≤ s.executor.breaker.activations + others.count .breakerFailure) ∧
      s'.executor.halted = (s.executor.halted && !others.contains .resume) := by
  intro s' calls attempts others
  cases hbegin : s.executor.breaker.active with
  | true =>
    rw [(run_active hbegin (some (s.now + ms)) request).1] at hdropped
    exact absurd hdropped (by simp)
  | false =>
    have h : Unfolds (some (s.now + ms)) s.executor.maxAttempts s ⟨request.operation, request.params, 0⟩ request.script
        attempts s' calls (s.run (some (s.now + ms)) request).2.2 := run_unfolds hbegin _ request
    have hnone := run_unfolds hbegin none request
    obtain ⟨hend, hcalls, hanswered, laterAttempts, laterCalls, hattempts, hallCalls, hlater, hlaterCalls⟩ :=
      h.undropped hdropped (Nat.le_add_right _ _)
    rw [hnone.attempts_eq] at hattempts
    rw [hnone.runCalls_eq] at hallCalls
    have hhistory := h.history
    rw [hdropped] at hhistory
    have hundergoes := h.undergoes hdropped
    refine ⟨hend, ⟨laterCalls, hallCalls, ?_, ?_⟩, ⟨laterAttempts, hattempts, ?_, ?_⟩,
      ⟨_, (h.incidents_of_dropped hdropped).symm, hhistory, ?_⟩, hundergoes, hundergoes.totalFailures,
      hundergoes.totalSuccesses, hundergoes.activations, hundergoes.halted⟩
    · rw [hend]
      exact hcalls
    · rw [hend]
      exact hlaterCalls
    · rw [hend]
      exact hanswered
    · rw [hend]
      exact hlater
    · rw [hhistory]
      exact History.escalations_foldl_record _ _

/-- An operation that fails at first; while the run waits for its second call somebody else fails and the operator
resumes trading. -/
def interrupted : RunRequest :=
  ⟨"ping", [],
    ⟨[{ takes := 10, side := [], result := .error .deadline, between := [(100, .breakerFailure), (50, .resume)] }],
      { takes := 10, side := [], result := .ok .null }⟩, none⟩

/-- The run is dropped while it waits for its second call, right after the failure of the other: the breaker has counted
this failure, and the history that of the call. -/
theorem run_dropped_interrupted :
    (idle.run (some (idle.now + 120)) interrupted).2.2 = .cancelled ∧
      let s' := (idle.run (some (idle.now + 120)) interrupted).1
      s'.now = 120 ∧ (idle.run (some (idle.now + 120)) interrupted).2.1.length = 1 ∧
        s'.executor.history.total = 1 ∧ s'.executor.breaker.totalFailures = 1 ∧
        s'.executor.breaker.totalSuccesses = 0 ∧ s'.executor.halted = false := by
  have hdropped : (idle.run (some (idle.now + 120)) interrupted).2.2 = .cancelled := by decide +kernel
  have hothers : idle.actsThrough (some (idle.now + 120)) interrupted.script
      (idle.attempts (some (idle.now + 120)) interrupted) = [.breakerFailure] := by decide +kernel
  have hattempts : (idle.attempts (some (idle.now + 120)) interrupted).length = 1 := by decide +kernel
  obtain ⟨hnow, -, -, ⟨incidents, hincidents, hhistory, -⟩, -, hfailures, hsuccesses, -, hhalted⟩ :=
    run_dropped idle 120 interrupted hdropped
  rw [hothers] at hfailures hsuccesses hhalted
  have hlength := congrArg List.length hincidents
  rw [List.length_map, List.length_map, hattempts] at hlength
  refine ⟨hdropped, hnow, by decide +kernel, ?_, hfailures, hsuccesses, hhalted⟩
  rw [hhistory, (History.Gains.foldl_record _ incidents).total, ← hlength]
  rfl

end Session

end Failsafe
