import Failsafe.Session

/-!
# The history is never read

Everything a session does between the steps of its runs goes on in the same way whatever has been recorded: hooks,
samples and checks, background loops, sleeps, and what others do meanwhile. So each of these leads from a session with
another history (`Session.withHistory`) to where it leads from the session itself, with that other history.
-/

namespace Failsafe

namespace Session

/-- The session with another history. -/
def withHistory (s : Session) (history : History) : Session := { s with executor := { s.executor with history } }

variable (s : Session) (history : History)

/-! ## Hooks, samples and checks -/

theorem callHook_withHistory (hook : Nat) :
    (s.withHistory history).callHook hook =
      ((s.callHook hook).1.withHistory history, (s.callHook hook).2) := by
  have hhooks : (s.withHistory history).hooks = s.hooks := rfl
  unfold callHook
  rw [hhooks]
  split <;> rfl

theorem handleSample_withHistory (kind : ResourceKind) (usage : Float) :
    (s.withHistory history).handleSample kind usage =
      ((s.handleSample kind usage).1.withHistory history, (s.handleSample kind usage).2) := by
  have hreaction : (s.withHistory history).governor.handle (s.withHistory history).registry kind usage =
      s.governor.handle s.registry kind usage := rfl
  unfold handleSample
  rw [hreaction]
  dsimp only
  split
  next => rfl
  next hook _ =>
    -- The hook is called when the reaction of the governor has been taken over.
    have hcalled := callHook_withHistory ({ s with
      governor := (s.governor.handle s.registry kind usage).governor
      registry := (s.governor.handle s.registry kind usage).registry }.emit
        (s.governor.handle s.registry kind usage).events) history hook
    exact congrArg (fun called : Session × HookStep =>
      (called.1, (s.governor.handle s.registry kind usage).actions, decide (called.2.answer = .panicked ∧
        (s.governor.handle s.registry kind usage).actions = [.logLevelLowered]))) hcalled

theorem handleSamples_withHistory (samples : List (ResourceKind × Float)) :
    (s.withHistory history).handleSamples samples =
      ((s.handleSamples samples).1.withHistory history, (s.handleSamples samples).2) := by
  induction samples generalizing s with
  | nil => rfl
  | cons sample rest ih =>
    obtain ⟨kind, usage⟩ := sample
    unfold handleSamples
    dsimp only
    rw [handleSample_withHistory]
    dsimp only
    split
    next => rfl
    next => rw [ih]

theorem handleSampling_withHistory (sampling : Sampling) :
    (s.withHistory history).handleSampling sampling =
      ((s.handleSampling sampling).1.withHistory history, (s.handleSampling sampling).2) := by
  cases sampling with
  | readings samples => exact s.handleSamples_withHistory history samples
  | failed => rfl

/-! ## Background loops -/

theorem runTask_withHistory (i : Nat) :
    (s.withHistory history).runTask i = (s.runTask i).withHistory history := by
  have htasks : (s.withHistory history).tasks = s.tasks := rfl
  unfold runTask
  rw [htasks]
  cases s.tasks[i]? with
  | none => rfl
  | some task =>
    dsimp only
    rw [callHook_withHistory]
    cases task.job with
    | monitor script =>
      dsimp only
      rw [handleSampling_withHistory]
      rfl
    | validator script => rfl

theorem happen_withHistory (time : Nat) (what : Due) :
    (s.withHistory history).happen time what = (s.happen time what).withHistory history := by
  cases what with
  | cooldown => rfl
  | task i => exact s.runTask_withHistory history i

theorem settleUpTo_withHistory (time bound : Nat) :
    settleUpTo time bound (s.withHistory history) = (settleUpTo time bound s).withHistory history := by
  induction bound generalizing s with
  | zero => rfl
  | succ bound ih =>
    have hnext : (s.withHistory history).nextDue time = s.nextDue time := rfl
    unfold settleUpTo
    rw [hnext]
    cases s.nextDue time with
    | none => rfl
    | some next =>
      dsimp only
      rw [happen_withHistory, ih]

/-! ## Sleeps -/

theorem sleepTo_withHistory (time : Nat) :
    (s.withHistory history).sleepTo time = (s.sleepTo time).withHistory history := by
  have hsettle : (s.withHistory history).settle (time - 1) = (s.settle (time - 1)).withHistory history :=
    s.settleUpTo_withHistory history (time - 1) (s.dueBound (time - 1))
  have hnow : (s.withHistory history).now = s.now := rfl
  unfold sleepTo
  rw [hsettle, hnow]
  split <;> rfl

theorem sleep_withHistory (deadline : Option Nat) (ms : Nat) :
    (s.withHistory history).sleep deadline ms =
      ((s.sleep deadline ms).1.withHistory history, (s.sleep deadline ms).2) := by
  have hwake : (s.withHistory history).clock.wake (s.withHistory history).now ms = s.clock.wake s.now ms := rfl
  unfold sleep
  rw [hwake]
  simp only [sleepTo_withHistory]
  split
  next => split <;> rfl
  next => rfl

theorem sideEffect_withHistory (effect : SideEffect) :
    (s.withHistory history).sideEffect effect = (s.sideEffect effect).withHistory history := by
  cases effect <;> rfl

theorem sideEffects_withHistory (effects : List SideEffect) :
    effects.foldl sideEffect (s.withHistory history) = (effects.foldl sideEffect s).withHistory history := by
  induction effects generalizing s with
  | nil => rfl
  | cons effect rest ih => rw [List.foldl_cons, List.foldl_cons, sideEffect_withHistory, ih]

theorem sleepAmong_withHistory (deadline : Option Nat) (ms : Nat) (others : List (Nat × SideEffect)) :
    (s.withHistory history).sleepAmong deadline ms others =
      ((s.sleepAmong deadline ms others).1.withHistory history, (s.sleepAmong deadline ms others).2) := by
  induction others generalizing s ms with
  | nil => exact s.sleep_withHistory history deadline ms
  | cons act rest ih =>
    obtain ⟨gap, effect⟩ := act
    have hlasts : (s.withHistory history).clock.lasts (s.withHistory history).now ms = s.clock.lasts s.now ms := rfl
    unfold sleepAmong
    dsimp only
    rw [hlasts]
    split
    next => exact s.sleep_withHistory history deadline _
    next =>
      rw [sleep_withHistory]
      rcases s.sleep deadline gap with ⟨woken, _ | _⟩
      · rfl
      · dsimp only
        rw [sideEffect_withHistory, ih]

end Session

end Failsafe
