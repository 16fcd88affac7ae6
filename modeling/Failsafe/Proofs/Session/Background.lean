import Failsafe.Proofs.Session.Attempt
import Failsafe.Proofs.Session.Perform
import Failsafe.Proofs.Session.Settle

/-!
# What goes on beside the runs

Between the steps of a run the clock goes on, loops do their jobs, hooks are called, components are reported and
restarted, and an operator may clear the halt flag. All of this is `Session.Quiet`: the records and the rules of
the executor stay what they are, its breaker changes by nothing but timers that wake, none of them later than the
clock shows, and no event tells of a call that failed.

So everything but the steps of a run is quiet, if nobody lays hands on the breaker: sleeps (`sleep_quiet`), the
time a run sleeps through (`sleepAmong_quiet`), reports (`report_quiet`), and every command that neither runs
an operation nor is about the breaker (`perform_quiet`).
-/

namespace Failsafe

/-- Whether an event tells of a call that failed, or of what the executor made of it. -/
def Event.ofRun : Event → Bool
  | .operationFailed _ | .escalation _ | .tradingHalted _ _ _ => true
  | .tradingResumed | .stateChanged _ _ => false

theorem Event.ofRun_of_ofState {e : Event} (h : e.ofState = true) : e.ofRun = false := by
  cases e with
  | stateChanged before after => rfl
  | _ => exact absurd h (by simp [Event.ofState])

namespace Session

/-- From `s` to `s'` no step of a run was taken and nobody laid hands on the breaker; its timers may have woken, at
times up to `time`. -/
structure Quiet (s : Session) (time : Nat) (s' : Session) : Prop where
  now : s.now ≤ s'.now
  now_le : s'.now ≤ max s.now time
  books : Executor.SameBooks s.executor s'.executor
  breaker : ∃ times : List Nat, (∀ t ∈ times, t ≤ time) ∧
    s'.executor.breaker = times.foldl Breaker.expire s.executor.breaker
  log : ∃ events : List Event, s'.log = events ++ s.log ∧ ∀ e ∈ events, e.ofRun = false
  ticking : s.Ticking → s'.Ticking

namespace Quiet

variable {s s' s'' : Session} {time time' : Nat}

theorem refl (s : Session) (time : Nat) : s.Quiet time s :=
  ⟨Nat.le_refl _, Nat.le_max_left _ _, .refl _, ⟨[], List.forall_mem_nil _, rfl⟩,
    ⟨[], rfl, List.forall_mem_nil _⟩, id⟩

theorem trans (h : s.Quiet time s') (h' : s'.Quiet time' s'') (hle : time ≤ time') : s.Quiet time' s'' := by
  obtain ⟨times, htimes, hbreaker⟩ := h.breaker
  obtain ⟨times', htimes', hbreaker'⟩ := h'.breaker
  obtain ⟨events, hlog, hevents⟩ := h.log
  obtain ⟨events', hlog', hevents'⟩ := h'.log
  have hnow := h.now
  have hnow' := h'.now
  have hbound := h.now_le
  have hbound' := h'.now_le
  refine ⟨by omega, by omega, h.books.trans h'.books, ⟨times ++ times', fun t ht => ?_, ?_⟩,
    ⟨events' ++ events, ?_, fun e he => ?_⟩, fun hticks => h'.ticking (h.ticking hticks)⟩
  · rcases List.mem_append.mp ht with ht | ht
    · exact Nat.le_trans (htimes t ht) hle
    · exact htimes' t ht
  · rw [hbreaker', hbreaker, List.foldl_append]
  · rw [hlog', hlog, List.append_assoc]
  · rcases List.mem_append.mp he with he | he
    · exact hevents' e he
    · exact hevents e he

/-- Timers wake no later than the clock shows, so quiet times add up. -/
theorem andThen (h : s.Quiet s'.now s') (h' : s'.Quiet s''.now s'') : s.Quiet s''.now s'' := h.trans h' h'.now

/-- Whatever leaves executor, clock and loops alone is quiet. -/
theorem of_sameCore (s s' : Session) (time : Nat) (h : SameCore s s') (events : List Event)
    (hlog : s'.log = events ++ s.log) (hevents : ∀ e ∈ events, e.ofRun = false) : s.Quiet time s' where
  now := Nat.le_of_eq h.now.symm
  now_le := by rw [h.now]; exact Nat.le_max_left _ _
  books := by rw [h.executor]; exact .refl _
  breaker := ⟨[], List.forall_mem_nil _, by rw [h.executor]; rfl⟩
  log := ⟨events, hlog, hevents⟩
  ticking := fun hticks => by unfold Ticking; rw [h.tasks]; exact hticks

end Quiet

variable (s : Session) (time : Nat)

/-! ## Hooks, samples and checks -/

theorem throughHooks_quiet : ThroughHooks fun s s' => s.Quiet time s' where
  refl := fun s => .refl s time
  trans := fun h h' => h.trans h' (Nat.le_refl _)
  hooks := fun s _ => .of_sameCore s _ time ⟨rfl, rfl, rfl, rfl⟩ [] rfl (List.forall_mem_nil _)
  governor := fun s _ => .of_sameCore s _ time ⟨rfl, rfl, rfl, rfl⟩ [] rfl (List.forall_mem_nil _)
  tended := fun {s _ events} h => .of_sameCore s _ time ⟨rfl, rfl, rfl, rfl⟩ events.reverse rfl
    fun e he => Event.ofRun_of_ofState (h.ofState e (List.mem_reverse.mp he))

/-! ## Sleeps -/

theorem runTask_quiet {i : Nat} {task : Task} (h : s.tasks[i]? = some task) : s.Quiet time (s.runTask i) := by
  have hticks : s.Ticking → (s.runTask i).Ticking := fun hticks => by
    have hfalls : s.FallsDue task.due (.task i) := ⟨task, h, rfl⟩
    exact hticks.happen hfalls
  -- The loops themselves are all that the job leaves to be changed.
  obtain ⟨done, hquiet, tasks, hrun⟩ := (throughHooks_quiet time).runTask s i
  rw [hrun] at hticks ⊢
  exact ⟨hquiet.now, hquiet.now_le, hquiet.books, hquiet.breaker, hquiet.log, hticks⟩

theorem happen_quiet {moment : Nat} {what : Due} (hdue : moment ≤ time) (h : s.FallsDue moment what) :
    s.Quiet time (s.happen moment what) := by
  cases what with
  | cooldown =>
    refine ⟨Nat.le_refl _, Nat.le_max_left _ _, ⟨⟨rfl, rfl, rfl⟩, rfl⟩, ⟨[moment], fun t ht => ?_, rfl⟩,
      ⟨[], rfl, List.forall_mem_nil _⟩, id⟩
    rw [List.mem_singleton.mp ht]
    exact hdue
  | task i =>
    obtain ⟨task, htask, -⟩ := h
    exact s.runTask_quiet time htask

theorem settleUpTo_quiet (bound : Nat) : s.Quiet time (settleUpTo time bound s) := by
  induction bound generalizing s with
  | zero => exact .refl s time
  | succ bound ih =>
    unfold settleUpTo
    split
    · exact .refl s time
    · next moment what hnext =>
      obtain ⟨hdue, hfalls⟩ := fallsDue_of_nextDue hnext
      exact (s.happen_quiet time hdue hfalls).trans (ih _) (Nat.le_refl _)

theorem settle_quiet : s.Quiet time (s.settle time) := settleUpTo_quiet s time _

theorem settle_now (h : time ≤ s.now) : (s.settle time).now = s.now := by
  have hquiet := s.settle_quiet time
  have hle := hquiet.now_le
  rw [Nat.max_eq_left h] at hle
  exact Nat.le_antisymm hle hquiet.now

theorem sleepTo_quiet : s.Quiet (s.sleepTo time).now (s.sleepTo time) := by
  unfold sleepTo
  split
  · next hlt =>
    -- What happens on the way is due before the new time, though the clock still shows the old one.
    have h := s.settle_quiet (time - 1)
    obtain ⟨times, htimes, hbreaker⟩ := h.breaker
    refine ⟨Nat.le_of_lt hlt, Nat.le_max_right _ _, h.books, ⟨times, fun t ht => ?_, hbreaker⟩, h.log, h.ticking⟩
    exact Nat.le_trans (htimes t ht) (Nat.sub_le time 1)
  · exact .refl s _

theorem sleep_quiet (deadline : Option Nat) (ms : Nat) :
    s.Quiet (s.sleep deadline ms).1.now (s.sleep deadline ms).1 := by
  unfold sleep
  dsimp only
  split
  · split <;> exact s.sleepTo_quiet _
  · exact s.sleepTo_quiet _

theorem resume_quiet : s.Quiet time (s.sideEffect .resume) := by
  refine ⟨Nat.le_refl _, Nat.le_max_left _ _, ⟨⟨rfl, rfl, rfl⟩, rfl⟩,
    ⟨[], List.forall_mem_nil _, rfl⟩, ⟨s.executor.resume.2.reverse, rfl, fun e he => ?_⟩, id⟩
  unfold Executor.resume at he
  dsimp only at he
  split at he
  · obtain rfl : e = .tradingResumed := by simpa using he
    rfl
  · exact absurd he (by simp)

/-- A sleep among others who do no more than clear the halt flag. -/
theorem sleepAmong_quiet (deadline : Option Nat) (ms : Nat) {others : List (Nat × SideEffect)}
    (h : ∀ act ∈ others, act.2 = .resume) :
    s.Quiet (s.sleepAmong deadline ms others).1.now (s.sleepAmong deadline ms others).1 := by
  induction others generalizing s ms with
  | nil => exact s.sleep_quiet deadline ms
  | cons act rest ih =>
    obtain ⟨gap, effect⟩ := act
    obtain rfl : effect = .resume := h _ List.mem_cons_self
    have hgap := s.sleep_quiet deadline gap
    unfold sleepAmong
    dsimp only
    split
    · exact s.sleep_quiet deadline _
    · rcases hsleep : s.sleep deadline gap with ⟨woken, _ | _⟩
      · rw [hsleep] at hgap
        exact hgap
      · rw [hsleep] at hgap
        have hrest := ih (woken.sideEffect .resume) (s.clock.lasts s.now ms - gap)
          fun act hact => h act (List.mem_cons_of_mem _ hact)
        exact hgap.andThen ((woken.resume_quiet woken.now).trans hrest hrest.now)

theorem resumes_quiet {effects : List SideEffect} (h : ∀ effect ∈ effects, effect = .resume) :
    s.Quiet time (effects.foldl sideEffect s) := by
  induction effects generalizing s with
  | nil => exact .refl s time
  | cons effect rest ih =>
    obtain rfl : effect = .resume := h _ List.mem_cons_self
    exact (s.resume_quiet time).trans (ih _ fun effect heffect => h effect (List.mem_cons_of_mem _ heffect))
      (Nat.le_refl _)

/-! ## Reports and commands -/

theorem startTask_quiet (job : Job) (label : String) (period : Duration) :
    s.Quiet time (s.startTask job label period) := by
  refine ⟨Nat.le_refl _, Nat.le_max_left _ _, .refl _, ⟨[], List.forall_mem_nil _, rfl⟩,
    ⟨[], rfl, List.forall_mem_nil _⟩, fun hticks task htask => ?_⟩
  rcases List.mem_append.mp htask with hold | hnew
  · exact hticks task hold
  · rw [List.mem_singleton.mp hnew]
    exact Nat.lt_of_lt_of_le Nat.one_pos (Nat.le_max_left _ _)

theorem throughBackground_quiet : ThroughBackground fun s s' => s.Quiet s'.now s' where
  refl := fun s => .refl s _
  trans := Quiet.andThen
  hooks := fun s hooks => (throughHooks_quiet _).hooks s hooks
  governor := fun s governor => (throughHooks_quiet _).governor s governor
  tended := fun h => (throughHooks_quiet _).tended h
  sleep := sleep_quiet
  startTask := fun s job label period => s.startTask_quiet _ job label period
  panicked := fun s _ _ => .of_sameCore s _ _ ⟨rfl, rfl, rfl, rfl⟩ [] rfl (List.forall_mem_nil _)

/-- A report is quiet, and the restart of a component that it waits for. -/
theorem report_quiet (deadline : Option Nat) (name error : String) (isCritical : Bool) :
    s.Quiet (s.report deadline name error isCritical).1.now (s.report deadline name error isCritical).1 :=
  throughBackground_quiet.report s
    (fun {s _} _ => .of_sameCore s _ _ ⟨rfl, rfl, rfl, rfl⟩ [] rfl (List.forall_mem_nil _)) deadline name error isCritical

/-- A command that asks for no run and is not about the breaker is quiet. -/
theorem perform_quiet {command : Command} (hrequest : command.request? = none)
    (htouches : command.touchesBreaker = false) : s.Quiet (s.perform command).1.now (s.perform command).1 := by
  cases hreports : command.reports with
  | false =>
    by_cases hresume : command = .resume
    · rw [hresume]
      exact s.resume_quiet _
    · exact throughBackground_quiet.perform s hrequest hreports hresume htouches
  | true =>
    cases command with
    | report name error isCritical =>
      rw [s.perform_report]
      exact s.report_quiet none name error isCritical
    | runFor component request => exact absurd hrequest (by simp [Command.request?])
    | _ => exact absurd hreports (by simp [Command.reports])

end Session

end Failsafe
