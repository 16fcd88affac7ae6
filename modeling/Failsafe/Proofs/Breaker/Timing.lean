import Failsafe.Proofs.Breaker.Activation
import Failsafe.Proofs.Clock

/-!
# When a breaker becomes inactive

The question is what ends an activation. Take any run of a new breaker after which it is active, and one more
step. The run splits at the activation under way: `before` it the breaker was inactive, `since` then it has
been active. `deactivates_iff` says that the step makes the breaker inactive exactly if it is a reset, or if
it takes the clock to the time of this activation plus the cooldown while no shutdown has come `since`. Nothing
else in the run counts: not the successes, not the further failures, and not what happened before the
activation.

The run and the step are arbitrary, so a clock that moves by single milliseconds shows the same.
-/

namespace Failsafe.ClockedBreaker

open Breaker

/-- The end of a cooldown that is no longer than thirty years. -/
theorem cooledDown_iff {b : Breaker} {start now : Nat} {stopped : Bool}
    (hlimit : b.timed = true → b.cooldown.millisUp ≤ sleepLimit) :
    b.CooledDown start stopped now ↔
      b.timed = true ∧ stopped = false ∧ start + b.cooldown.millisUp ≤ now := by
  unfold CooledDown cooldownEnd
  refine and_congr_right fun htimed => ?_
  rw [Clock.wake_of_reaches (.inl (hlimit htimed))]

/-- **What ends an activation.** Take a breaker on any clock, with a cooldown of no more than thirty years. A step makes
it inactive when it is active if and only if the step is a reset, or timers run, no shutdown has come since the
activation under way, and the step takes the clock to the time of that activation plus the cooldown. The breaker has then no consecutive failures and no time of activation. -/
theorem deactivates_iff (name : String) (settings : BreakerSettings) (timed : Bool) (clock : Clock)
    (hlimit : timed = true → settings.cooldown.millisUp ≤ sleepLimit)
    (run : List BreakerStep) (hactive : ((new name settings timed clock).play run).breaker.active = true)
    (s : BreakerStep) :
    ∃ before times since, run = before ++ .command (.failure times) :: since ∧
      Activation (new name settings timed clock) before times since ∧
      let start := ((new name settings timed clock).play before).now
      let next := ((new name settings timed clock).play run).step s
      (next.breaker.active = false ↔
        s = .command .reset ∨
          timed = true ∧ .command .shutdown ∉ since ∧ start + settings.cooldown.millisUp ≤ next.now) ∧
      (next.breaker.active = false →
        next.breaker.consecutive = 0 ∧ next.breaker.activatedAt = none) := by
  have hlike := play_like (new name settings timed clock) run
  rcases play_idle_or_cooling name settings timed clock run with hidle | ⟨before, times, since, hrun, hact, hcooling⟩
  · exact absurd hidle.active (by simp [hactive])
  refine ⟨before, times, since, hrun, hact, ?_⟩
  dsimp only
  have htimed : ((new name settings timed clock).play run).breaker.timed = timed := hlike.timed
  have hcooldown : ((new name settings timed clock).play run).breaker.cooldown = settings.cooldown := hlike.cooldown
  have hstep := step_cooling hcooling s
  rw [cooledDown_iff (by rw [htimed, hcooldown]; exact hlimit), htimed, hcooldown, decide_eq_false_iff_not]
    at hstep
  rcases hstep with ⟨hends, hidle, hzero⟩ | ⟨hlasts, hcooling'⟩
  · exact ⟨⟨fun _ => hends, fun _ => hidle.active⟩, fun _ => ⟨hzero, hidle.activatedAt⟩⟩
  · have hstill := hcooling'.activeSince.active
    refine ⟨⟨fun h => ?_, fun h => absurd h hlasts⟩, fun h => ?_⟩
    · rw [hstill] at h
      exact absurd h (by simp)
    · rw [hstill] at h
      exact absurd h (by simp)

/-- A run in which the timer of a first activation would have woken during the second. -/
def resetRun : List BreakerStep :=
  [.command (.failure 1), .sleep 20000, .command .reset, .command (.failure 1), .sleep 15000]

/-- The second activation began at 20 s and lasts its full 30 s: the next 16 s end it. -/
theorem deactivates_iff_resetRun :
    (BreakerSettings.cooldown ⟨1, 30⟩).millisUp ≤ sleepLimit ∧
      ((new "rpc" ⟨1, 30⟩ true).play resetRun).breaker.active = true ∧
      ∃ before times since, resetRun = before ++ .command (.failure times) :: since ∧
        Activation (new "rpc" ⟨1, 30⟩ true) before times since ∧
        let start := ((new "rpc" ⟨1, 30⟩ true).play before).now
        let next := ((new "rpc" ⟨1, 30⟩ true).play resetRun).step (.sleep 16000)
        (next.breaker.active = false ↔
          BreakerStep.sleep 16000 = .command .reset ∨
            true = true ∧ .command .shutdown ∉ since ∧
              start + (BreakerSettings.cooldown ⟨1, 30⟩).millisUp ≤ next.now) ∧
        (next.breaker.active = false →
          next.breaker.consecutive = 0 ∧ next.breaker.activatedAt = none) :=
  ⟨by decide, by decide,
    deactivates_iff "rpc" ⟨1, 30⟩ true .short (fun _ => by decide) resetRun (by decide) (.sleep 16000)⟩

/-- At 35 s the breaker is still active, though a timer started at 0 s would have woken at 30 s; at 51 s the
second cooldown is over. -/
example :
    ((new "rpc" ⟨1, 30⟩ true).play resetRun).breaker.active = true ∧
      ((new "rpc" ⟨1, 30⟩ true).play (resetRun ++ [.sleep 16000])).breaker.active = false := by
  decide

end Failsafe.ClockedBreaker
