import Failsafe.Proofs.Health.Evolution
import Failsafe.Session

/-!
# What a sleep does to the executor

While a run sleeps, the background loops work and the breaker's cooldowns end. A loop calls hooks and has the governor and
the registry do something (`ThroughHooks`). A sleep is a chain of such things and of moves of the clock, so a relation
that goes along with each of them goes along with a sleep (`ThroughTime.sleep`).

The loops have nothing to do with the executor, so `sleep_aged`: a sleep leaves the executor as it was but for timers of
the breaker that woke.
-/

namespace Failsafe

/-- The executor `e'` is `e` after timers of its breaker have woken, at some times. -/
def Executor.Aged (e e' : Executor) : Prop :=
  ∃ times : List Nat, e' = { e with breaker := times.foldl Breaker.expire e.breaker }

theorem Executor.Aged.refl (e : Executor) : Executor.Aged e e := ⟨[], rfl⟩

theorem Executor.Aged.of_eq {e e' : Executor} (h : e' = e) : Executor.Aged e e' := ⟨[], h⟩

theorem Executor.Aged.trans {e e' e'' : Executor} (h : Executor.Aged e e') (h' : Executor.Aged e' e'') :
    Executor.Aged e e'' := by
  obtain ⟨first, rfl⟩ := h
  obtain ⟨rest, rfl⟩ := h'
  exact ⟨first ++ rest, by rw [List.foldl_append]⟩

namespace Session

/-- The session `s'` has the clock, the executor and the background loops of `s`, at the same time. -/
structure SameCore (s s' : Session) : Prop where
  now : s'.now = s.now
  clock : s'.clock = s.clock
  executor : s'.executor = s.executor
  tasks : s'.tasks = s.tasks

theorem SameCore.trans {s s' s'' : Session} (h : SameCore s s') (h' : SameCore s' s'') : SameCore s s'' :=
  ⟨h'.now.trans h.now, h'.clock.trans h.clock, h'.executor.trans h.executor, h'.tasks.trans h.tasks⟩

/-! ## Hooks, samples and checks -/

/-- The relation of a session to what becomes of it goes along with whatever happens to its hooks and its governor, and
with operations on the registry. -/
structure ThroughHooks (R : Session → Session → Prop) : Prop where
  refl : ∀ s, R s s
  trans : ∀ {s s' s''}, R s s' → R s' s'' → R s s''
  hooks : ∀ (s : Session) (hooks : List Hook), R s { s with hooks }
  governor : ∀ (s : Session) (governor : Governor), R s { s with governor }
  tended : ∀ {s : Session} {registry : Registry} {events : List Event}, s.registry.Tended registry events →
    R s ({ s with registry }.emit events)

namespace ThroughHooks

variable {R : Session → Session → Prop} (h : ThroughHooks R) (s : Session)
include h

theorem callHook (hook : Nat) : R s (s.callHook hook).1 := by
  unfold Session.callHook
  split
  · exact h.refl s
  · exact h.hooks s _

theorem addHook (label : String) (script : List HookStep) : R s (s.addHook label script).1 := h.hooks s _

theorem handleSample (kind : ResourceKind) (usage : Float) : R s (s.handleSample kind usage).1 := by
  let reaction := s.governor.handle s.registry kind usage
  have htended : R { s with governor := reaction.governor }
      ({ s with governor := reaction.governor, registry := reaction.registry }.emit reaction.events) :=
    h.tended (s.governor.handle_tended s.registry kind usage)
  have hhandled := h.trans (h.governor s reaction.governor) htended
  unfold Session.handleSample
  dsimp only
  split
  · exact hhandled
  · next hook _ => exact h.trans hhandled (h.callHook _ hook)

theorem handleSamples (samples : List (ResourceKind × Float)) : R s (s.handleSamples samples).1 := by
  induction samples generalizing s with
  | nil => exact h.refl s
  | cons sample rest ih =>
    obtain ⟨kind, usage⟩ := sample
    unfold Session.handleSamples
    dsimp only
    split
    · exact h.handleSample s kind usage
    · exact h.trans (h.handleSample s kind usage) (ih _)

theorem handleSampling (sampling : Sampling) : R s (s.handleSampling sampling).1 := by
  cases sampling with
  | readings samples => exact h.handleSamples s samples
  | failed => exact h.refl s

theorem handleFinding (finding : Finding) : R s (s.handleFinding finding) :=
  h.tended (s.registry.setConsistent_tended finding.flag)

/-- A loop does its job; what is left is to put the loop down for the next time. -/
theorem runTask (index : Nat) : ∃ done, R s done ∧ ∃ tasks, s.runTask index = { done with tasks } := by
  unfold Session.runTask
  split
  · exact ⟨s, h.refl s, s.tasks, rfl⟩
  · next task _ =>
    have hcalled := h.callHook s task.hook
    dsimp only
    split
    · exact ⟨_, h.trans hcalled (h.handleSampling _ _), _, rfl⟩
    · exact ⟨_, h.trans hcalled (h.handleFinding _ _), _, rfl⟩

end ThroughHooks

variable (s : Session)

theorem throughHooks_sameCore : ThroughHooks SameCore where
  refl := fun _ => ⟨rfl, rfl, rfl, rfl⟩
  trans := SameCore.trans
  hooks := fun _ _ => ⟨rfl, rfl, rfl, rfl⟩
  governor := fun _ _ => ⟨rfl, rfl, rfl, rfl⟩
  tended := fun _ => ⟨rfl, rfl, rfl, rfl⟩

theorem runTask_executor (index : Nat) : (s.runTask index).executor = s.executor := by
  obtain ⟨done, hcore, tasks, hrun⟩ := throughHooks_sameCore.runTask s index
  rw [hrun]
  exact hcore.executor

theorem happen_aged (time : Nat) (due : Due) : s.executor.Aged (s.happen time due).executor := by
  cases due with
  | cooldown => exact ⟨[time], rfl⟩
  | task index => exact .of_eq (runTask_executor s index)

/-! ## Sleeps -/

/-- The relation of a session to what becomes of it goes along with the clock and with whatever falls due. -/
structure ThroughTime (R : Session → Session → Prop) : Prop where
  refl : ∀ s, R s s
  trans : ∀ {s s' s''}, R s s' → R s' s'' → R s s''
  happen : ∀ s moment what, R s (s.happen moment what)
  clock : ∀ s time, R s { s with now := time }

namespace ThroughTime

variable {R : Session → Session → Prop} (h : ThroughTime R)
include h

theorem settle (time : Nat) : R s (s.settle time) := by
  suffices hbound : ∀ bound s, R s (settleUpTo time bound s) from hbound _ s
  intro bound
  induction bound with
  | zero => exact h.refl
  | succ bound ih =>
    intro s
    unfold settleUpTo
    split
    · exact h.refl s
    · next moment what _ => exact h.trans (h.happen s moment what) (ih _)

theorem sleep (deadline : Option Nat) (ms : Nat) : R s (s.sleep deadline ms).1 := by
  have hsleepTo : ∀ time, R s (s.sleepTo time) := by
    intro time
    unfold sleepTo
    split
    · exact h.trans (h.settle s (time - 1)) (h.clock _ time)
    · exact h.refl s
  unfold Session.sleep
  dsimp only
  split
  · split <;> exact hsleepTo _
  · exact hsleepTo _

end ThroughTime

theorem throughTime_aged : ThroughTime fun s s' => s.executor.Aged s'.executor where
  refl := fun s => .refl s.executor
  trans := Executor.Aged.trans
  happen := happen_aged
  clock := fun s _ => .refl s.executor

/-- A sleep leaves the executor as it was but for timers of the breaker that woke. -/
theorem sleep_aged (deadline : Option Nat) (ms : Nat) : s.executor.Aged (s.sleep deadline ms).1.executor :=
  throughTime_aged.sleep s deadline ms

/-- Without a deadline every sleeper wakes. -/
theorem sleep_none (ms : Nat) : (s.sleep none ms).2 = true := rfl

/-- And so it does among others. -/
theorem sleepAmong_none (ms : Nat) (others : List (Nat × SideEffect)) :
    (s.sleepAmong none ms others).2 = true := by
  induction others generalizing s ms with
  | nil => exact sleep_none s ms
  | cons act rest ih =>
    obtain ⟨gap, effect⟩ := act
    unfold sleepAmong
    dsimp only
    split
    · exact sleep_none s _
    · exact ih _ _

end Session

end Failsafe
