import Failsafe.Proofs.Breaker.Account
import Failsafe.Proofs.Session.Gate
import Failsafe.Proofs.Session.Opening
import Failsafe.Proofs.Session.Working

/-!
# After a shutdown

A shutdown takes the breaker's timer away and ends the background loops. The breaker of a session is sound
(`Breaker.Sound`), and so it has no timer but the one that is taken away. What is left is at rest (`Session.AtRest`):
nothing falls due any more, and a sleep moves the clock and nothing else.

`Session.shutdown` ends the loops at once, which is all that can be seen when no hook takes time. In a `Working` session
a loop calls its hook, waits for the answer and hands it on, and other loops get to work meanwhile. There a shutdown sets
a flag, which a loop heeds when it waits for nothing else, maybe after another turn, and it returns when all loops have
ended (`Working.shutdown?`). Whatever the loops do up to then, none of it touches the executor (`Working.act_executor`),
so that the breaker is what the shutdown made of it in the beginning.
-/

namespace Failsafe

/-- A breaker that has no timer stays what it is as time goes by. -/
theorem Breaker.foldl_expire_of_sleeping {b : Breaker} (h : b.sleeping = []) (times : List Nat) :
    times.foldl expire b = b := by
  induction times with
  | nil => rfl
  | cons time rest ih =>
    have hexpire : b.expire time = b := by
      unfold expire
      rw [h]
      rfl
    rw [List.foldl_cons, hexpire]
    exact ih

namespace Session

variable {s s' : Session}

/-! ## The breaker of a session -/

theorem Quiet.sound {time : Nat} (h : s.Quiet time s') (hs : s.executor.breaker.Sound) : s'.executor.breaker.Sound := by
  obtain ⟨times, -, hbreaker⟩ := h.breaker
  rw [hbreaker]
  exact hs.foldl_expire times

theorem throughSleep_sound : ThroughSleep fun s s' => s.executor.breaker.Sound → s'.executor.breaker.Sound where
  refl := fun _ => id
  trans := fun h h' hs => h' (h hs)
  sleep := fun s deadline ms => (s.sleep_quiet deadline ms).sound
  sideEffect := fun s effect hs => by
    cases effect with
    | breakerFailure => exact hs.recordFailure s.now
    | breakerSuccess => exact hs.recordSuccess
    | breakerReset => exact hs.reset
    | breakerShutdown => exact hs.shutdown
    | resume => exact hs

theorem run_sound (hs : s.executor.breaker.Sound) (deadline : Option Nat) (request : RunRequest) :
    (s.run deadline request).1.executor.breaker.Sound := by
  refine throughSleep_sound.run (fun a failure ha => ?_) (fun a failure ha => ?_) (fun a ha => ha.recordSuccess) s
    deadline request hs
  · rw [a.observed_breaker failure]
    exact ha
  · rw [a.givenUp_breaker failure, ← a.observed_breaker failure]
    exact ha.recordFailure _

theorem perform_sound (hs : s.executor.breaker.Sound) (command : Command) :
    (s.perform command).1.executor.breaker.Sound := by
  cases hrequest : command.request? with
  | none =>
    cases htouches : command.touchesBreaker with
    | false => exact (s.perform_quiet hrequest htouches).sound hs
    | true =>
      cases command with
      | breaker command => exact hs.apply s.now command
      | shutdown => exact hs.shutdown
      | _ => exact absurd htouches (by simp [Command.touchesBreaker])
  | some request =>
    cases command with
    | run asked => exact run_sound hs _ asked
    | runFor component asked => exact (s.runFor_quiet _ component asked).sound (run_sound hs _ asked)
    | _ => exact absurd hrequest (by simp [Command.request?])

/-- Whatever is asked of a session, its breaker is idle, or active with no timer but its own. -/
theorem after_sound (hs : s.executor.breaker.Sound) (commands : List Command) :
    (s.after commands).executor.breaker.Sound :=
  List.foldlRecOn (motive := fun s : Session => s.executor.breaker.Sound) commands _ hs fun _ hs command _ =>
    (settle_quiet _ _).sound (perform_sound hs command)

theorem happen_sound (hs : s.executor.breaker.Sound) (moment : Nat) (what : Due) :
    (s.happen moment what).executor.breaker.Sound := by
  cases what with
  | cooldown => exact hs.expire moment
  | task i =>
    show (s.runTask i).executor.breaker.Sound
    rw [s.runTask_executor i]
    exact hs

/-! ## At rest -/

/-- No loop is left, and no timer of the breaker. -/
structure AtRest (s : Session) : Prop where
  tasks : s.tasks = []
  sleeping : s.executor.breaker.sleeping = []

namespace AtRest

variable (h : s.AtRest)
include h

theorem nextDue (time : Nat) : s.nextDue time = none := by
  have hwake : s.executor.breaker.nextWake = none := by
    unfold Breaker.nextWake
    rw [h.sleeping]
    rfl
  rw [nextDue_eq, h.tasks, hwake]
  rfl

theorem settle (time : Nat) : s.settle time = s := by
  have hbound : s.dueBound time = 0 := by
    unfold dueBound
    rw [h.tasks, h.sleeping]
    rfl
  unfold Session.settle
  rw [hbound]
  rfl

/-- A sleep moves the clock. -/
theorem sleep (ms : Nat) : (s.sleep none ms).1 = { s with now := s.clock.wake s.now ms } := by
  show s.sleepTo (s.clock.wake s.now ms) = _
  unfold sleepTo
  split
  · rw [h.settle]
  · next hlate =>
    have hle : s.now ≤ s.clock.wake s.now ms := Nat.le_add_right _ _
    have hnow : s.clock.wake s.now ms = s.now := Nat.le_antisymm (Nat.not_lt.mp hlate) hle
    rw [hnow]

/-- And so does any number of them. -/
theorem sleeps (sleeps : List Nat) :
    sleeps.foldl (fun s ms => (s.sleep none ms).1) s = { s with now := sleeps.foldl s.clock.wake s.now } := by
  induction sleeps generalizing s with
  | nil => rfl
  | cons ms rest ih =>
    have hslept : ({ s with now := s.clock.wake s.now ms } : Session).AtRest := ⟨h.tasks, h.sleeping⟩
    rw [List.foldl_cons, h.sleep, ih hslept]
    rfl

end AtRest

/-! ## Shutdowns -/

/-- What a shutdown leaves is at rest, and its breaker is what it was but for the timer, which is taken away. -/
theorem atRest_of_shutdown? {w : Working} {acts : List Act} {down : Session}
    (hs : w.session.executor.breaker.Sound) (h : w.shutdown? acts = some down) :
    down.AtRest ∧ down.executor = { w.session.executor with breaker := w.session.executor.breaker.shutdown } := by
  obtain ⟨w', hplay, hjoin⟩ := Option.bind_eq_some_iff.mp h
  have hsleeping : w.session.executor.breaker.shutdown.sleeping = [] := by
    rw [hs.shutdown_eq]
  -- From the beginning of the shutdown there is no timer that could wake.
  have hexecutor : w'.session.executor = w.stop.session.executor := by
    obtain ⟨times, haged⟩ := Working.play_executor hplay
    rw [haged]
    exact congrArg (fun breaker => { w.stop.session.executor with breaker })
      (Breaker.foldl_expire_of_sleeping hsleeping times)
  obtain rfl := Working.of_join? hjoin
  refine ⟨⟨rfl, ?_⟩, hexecutor⟩
  show w'.session.executor.breaker.sleeping = []
  rw [hexecutor]
  exact hsleeping

/-- A validator that looks every minute, a breaker that is activated after half a minute, and a monitor from then
on: after another half minute both loops and the breaker's timer are due at once. -/
def watched : List Command :=
  [.startValidator [.consistent true, .failed], .sleep 29980, .run failing, .run failing,
    .startMonitor [.failed, .readings [(.cpu, 97)]]]

/-- The monitor gets to work once more before it heeds the flag, and its sampler takes forty milliseconds. -/
def slowly : List Act := [.call 1, .pass 40, .leave 0, .handOn 1, .leave 1]

end Session

end Failsafe
