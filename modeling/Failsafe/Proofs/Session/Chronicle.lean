import Failsafe.Proofs.Session.Background
import Failsafe.Proofs.Session.Completion
import Failsafe.Proofs.Session.Course
import Mathlib.Data.List.Induction

/-!
# The chronicle of a session

A session does not remember how its runs ended. `Session.chronicle` does: it carries out commands and writes
down beside the session every run that was asked for, latest first, with its outcome, and every event.

What the runs of a chronicle add up to can be said if nobody but the runs lays hands on the breaker
(`Command.HandsOff`). Then a command is one run and something quiet after it, or it is quiet altogether
(`performed_cases`).
-/

namespace Failsafe

/-! ## Hands off the breaker -/

/-- Whether others do no more than clear the halt flag around a call. -/
structure CallStep.HandsOff (step : CallStep) : Prop where
  side : ∀ effect ∈ step.side, effect = .resume
  during : ∀ act ∈ step.during, act.2 = .resume
  between : ∀ act ∈ step.between, act.2 = .resume

/-- Whether others do no more than that around any call of a script. -/
structure CallScript.HandsOff (script : CallScript) : Prop where
  steps : ∀ step ∈ script.steps, step.HandsOff
  fallback : script.fallback.HandsOff

theorem CallScript.HandsOff.next {script : CallScript} (h : script.HandsOff) :
    script.next.1.HandsOff ∧ script.next.2.HandsOff := by
  unfold CallScript.next
  cases hsteps : script.steps with
  | nil => exact ⟨h.fallback, h⟩
  | cons step rest =>
    have hall := h.steps
    rw [hsteps] at hall
    exact ⟨hall step List.mem_cons_self, fun other hother => hall other (List.mem_cons_of_mem _ hother), h.fallback⟩

/-- Whether a command leaves the breaker to the runs. -/
structure Command.HandsOff (command : Command) : Prop where
  touches : command.touchesBreaker = false
  script : ∀ request ∈ command.request?, request.script.HandsOff

instance (step : CallStep) : Decidable step.HandsOff :=
  decidable_of_iff ((∀ effect ∈ step.side, effect = .resume) ∧ (∀ act ∈ step.during, act.2 = .resume) ∧
      ∀ act ∈ step.between, act.2 = .resume)
    ⟨fun ⟨side, during, between⟩ => ⟨side, during, between⟩, fun h => ⟨h.side, h.during, h.between⟩⟩

instance (script : CallScript) : Decidable script.HandsOff :=
  decidable_of_iff ((∀ step ∈ script.steps, step.HandsOff) ∧ script.fallback.HandsOff)
    ⟨fun ⟨steps, fallback⟩ => ⟨steps, fallback⟩, fun h => ⟨h.steps, h.fallback⟩⟩

instance (command : Command) : Decidable command.HandsOff :=
  decidable_of_iff (command.touchesBreaker = false ∧ ∀ request ∈ command.request?, request.script.HandsOff)
    ⟨fun ⟨touches, script⟩ => ⟨touches, script⟩, fun h => ⟨h.touches, h.script⟩⟩

namespace Session

/-! ## Past runs -/

/-- What is left of a run. When it was for a component, the report that may follow is not part of it. -/
structure PastRun where
  /-- When its last call had been dealt with, or when it was dropped. -/
  ended : Nat
  /-- How many of its calls handed a failure back. -/
  failedCalls : Nat
  outcome : RunOutcome

/-- A run of an operation that begins now. -/
def pastRun (s : Session) (request : RunRequest) : PastRun :=
  { ended := (s.run (request.deadline s.now) request).1.now
    failedCalls := ((s.attempts (request.deadline s.now) request).filterMap Attempt.incident?).length
    outcome := (s.run (request.deadline s.now) request).2.2 }

namespace RunOutcome

def isValue : RunOutcome → Bool
  | .value _ => true
  | _ => false

def isFailed : RunOutcome → Bool
  | .stopped (.failed _ _ _ _) => true
  | _ => false

end RunOutcome

/-- A session with the runs and events that led to it. -/
structure Chronicle where
  session : Session
  /-- The latest first. -/
  runs : List PastRun
  /-- The latest last. -/
  events : List Event

/-- One command more. -/
def Chronicle.next (c : Chronicle) (command : Command) : Chronicle :=
  let (s, report) := c.session.step command
  { session := s
    runs := (command.request?.map c.session.pastRun).toList ++ c.runs
    events := c.events ++ report.events }

/-- What came of carrying out commands. -/
def chronicle (s : Session) (commands : List Command) : Chronicle := commands.foldl Chronicle.next ⟨s, [], []⟩

theorem chronicle_concat (s : Session) (commands : List Command) (command : Command) :
    s.chronicle (commands ++ [command]) = (s.chronicle commands).next command := by
  unfold chronicle
  rw [List.foldl_append]
  rfl

/-- The session after some commands. -/
def after (s : Session) (commands : List Command) : Session := commands.foldl (fun s command => (s.step command).1) s

theorem after_append (s : Session) (commands more : List Command) :
    s.after (commands ++ more) = (s.after commands).after more := List.foldl_append

theorem chronicle_session (s : Session) (commands : List Command) :
    (s.chronicle commands).session = s.after commands := by
  induction commands using List.reverseRecOn with
  | nil => rfl
  | append_singleton commands command ih =>
    rw [chronicle_concat, after_append, ← ih]
    rfl

/-- What holds at first, and after each command that leaves the breaker to the runs, holds of the chronicle. -/
theorem chronicle_induction {P : Chronicle → Prop} {s : Session} (hfirst : P ⟨s, [], []⟩)
    (hnext : ∀ {c command}, P c → command.HandsOff → P (c.next command)) {commands : List Command}
    (hhands : ∀ command ∈ commands, command.HandsOff) : P (s.chronicle commands) := by
  unfold chronicle
  generalize (⟨s, [], []⟩ : Chronicle) = c at hfirst ⊢
  induction commands generalizing c with
  | nil => exact hfirst
  | cons command rest ih =>
    refine ih (fun other hother => hhands other (List.mem_cons_of_mem _ hother)) (c.next command) ?_
    exact hnext hfirst (hhands command List.mem_cons_self)

/-! ## One command -/

/-- The session when a command has been carried out and all that is due has happened. -/
def played (s : Session) (command : Command) : Session :=
  (s.perform command).1.settle (s.perform command).1.now

variable {s : Session} {command : Command}

theorem played_now : (s.played command).now = (s.perform command).1.now := settle_now _ _ (Nat.le_refl _)

theorem played_quiet : (s.perform command).1.Quiet (s.played command).now (s.played command) := by
  rw [played_now]
  exact settle_quiet _ _

/-- After a command no timer of the breaker is due. -/
theorem lt_nextWake_played {moment : Nat} (hticks : (s.perform command).1.Ticking)
    (hwake : (s.played command).executor.breaker.nextWake = some moment) : (s.played command).now < moment := by
  rw [played_now]
  exact lt_nextWake_settle hticks _ hwake

/-- For a component a run is a run, with a report after it if it failed. -/
theorem runFor_cases (s : Session) (deadline : Option Nat) (component : String) (request : RunRequest) :
    (s.runFor deadline component request).1 = (s.run deadline request).1 ∨
      ∃ error isCritical, (s.runFor deadline component request).1 =
        ((s.run deadline request).1.report deadline component error isCritical).1 := by
  unfold runFor
  split
  · next ended calls operation failure attempts action hrun =>
    refine .inr ⟨failure.message, action.stopTrading || action.escalate, ?_⟩
    rw [hrun]
    dsimp only
    split <;> (next hreport => rw [hreport])
  · exact .inl rfl

/-- Reporting the failure that ended a run is quiet. -/
theorem runFor_quiet (s : Session) (deadline : Option Nat) (component : String) (request : RunRequest) :
    (s.run deadline request).1.Quiet (s.runFor deadline component request).1.now
      (s.runFor deadline component request).1 := by
  rcases s.runFor_cases deadline component request with hrun | ⟨error, isCritical, hreport⟩
  · rw [hrun]
    exact .refl _ _
  · rw [hreport]
    exact report_quiet _ deadline component error isCritical

/-- For a component an operation is called as often as otherwise. -/
theorem runFor_calls (s : Session) (deadline : Option Nat) (component : String) (request : RunRequest) :
    (s.runFor deadline component request).2.1 = (s.run deadline request).2.1 := by
  unfold runFor
  split
  · next ended calls operation failure attempts action hrun =>
    rw [hrun]
    dsimp only
    split <;> rfl
  · rfl

/-- A command that leaves the breaker alone is a run, and after it something quiet, or it is quiet. -/
theorem performed_cases (h : command.HandsOff) :
    (∃ request, command.request? = some request ∧ request.script.HandsOff ∧
        (s.run (request.deadline s.now) request).1.Quiet (s.perform command).1.now (s.perform command).1) ∨
      (command.request? = none ∧ s.Quiet (s.perform command).1.now (s.perform command).1) := by
  cases hrequest : command.request? with
  | none => exact .inr ⟨rfl, perform_quiet s hrequest h.touches⟩
  | some request =>
    refine .inl ⟨request, rfl, h.script request hrequest, ?_⟩
    cases command with
    | run asked =>
      obtain rfl : asked = request := by simpa [Command.request?] using hrequest
      exact .refl _ _
    | runFor component asked =>
      obtain rfl : asked = request := by simpa [Command.request?] using hrequest
      exact runFor_quiet s _ component asked
    | _ => exact absurd hrequest (by simp [Command.request?])

/-! ## One call -/

/-- Until the call of an attempt has answered, everything is quiet. -/
theorem Answers.quiet {deadline : Option Nat} {run : Run} {script : CallScript} {a : Attempt}
    (h : Answers deadline s run script a) (hscript : script.HandsOff) : s.Quiet a.answered.now a.answered := by
  have hstep : a.step.HandsOff := by
    rw [h.step]
    exact hscript.next.1
  obtain ⟨woken, hsleep, hanswered⟩ := h.answered
  have hslept := s.sleepAmong_quiet deadline a.step.takes hstep.during
  rw [hsleep] at hslept
  rw [hanswered]
  exact hslept.andThen (woken.resumes_quiet _ hstep.side)

/-- And so it is while the run waits for its next call. -/
theorem Answers.waits_quiet {deadline : Option Nat} {run : Run} {script : CallScript} {a : Attempt}
    (h : Answers deadline s run script a) (hscript : script.HandsOff) (failure : Failure) (ms : Nat) :
    (a.observed failure).Quiet ((a.observed failure).sleepAmong deadline ms a.step.between).1.now
      ((a.observed failure).sleepAmong deadline ms a.step.between).1 := by
  have hstep : a.step.HandsOff := by
    rw [h.step]
    exact hscript.next.1
  exact sleepAmong_quiet _ deadline ms hstep.between

end Session

end Failsafe
