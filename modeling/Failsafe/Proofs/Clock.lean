import Failsafe.Clock
import Mathlib.Order.Monotone.Basic

/-!
# How long sleeps last

No sleep is longer than it was asked to be, and one that is not over at once takes some time. Something that sleeps
over and over again comes back at the moments `Clock.tick`: they lie an interval apart as long as the clock can tell
them (`tick_eq`), and their number up to a time is then a quotient (`eq_of_lt_iff_tick_le`).
-/

namespace Failsafe.Clock

variable {clock : Clock} {now ms : Nat}

theorem lasts_of_reaches (h : clock.Reaches now ms) : clock.lasts now ms = ms := if_pos h

theorem lasts_of_not_reaches (h : ¬clock.Reaches now ms) : clock.lasts now ms = sleepLimit := if_neg h

theorem wake_of_reaches (h : clock.Reaches now ms) : clock.wake now ms = now + ms := by
  rw [wake, lasts_of_reaches h]

theorem lt_of_not_reaches (h : ¬clock.Reaches now ms) : sleepLimit < ms ∧ clock.horizon < now + ms := by
  unfold Reaches at h
  omega

/-- No sleep lasts longer than it was asked to. -/
theorem lasts_le (clock : Clock) (now ms : Nat) : clock.lasts now ms ≤ ms := by
  by_cases h : clock.Reaches now ms
  · exact Nat.le_of_eq (lasts_of_reaches h)
  · rw [lasts_of_not_reaches h]
    exact Nat.le_of_lt (lt_of_not_reaches h).1

theorem lasts_pos (h : 0 < ms) : 0 < clock.lasts now ms := by
  by_cases hreaches : clock.Reaches now ms
  · rw [lasts_of_reaches hreaches]
    exact h
  · rw [lasts_of_not_reaches hreaches]
    decide

theorem lt_wake (h : 0 < ms) : now < clock.wake now ms := Nat.lt_add_of_pos_right (lasts_pos h)

/-- Where thirty years are in sight, a sleep ends in time exactly if its end is. -/
theorem reaches_iff (h : now + sleepLimit ≤ clock.horizon) : clock.Reaches now ms ↔ now + ms ≤ clock.horizon := by
  unfold Reaches
  omega

/-! ## Sleeping over and over again -/

/-- When something comes back that begins at `start` and sleeps for some milliseconds each time. -/
def tick (clock : Clock) (start ms : Nat) : Nat → Nat
  | 0 => start
  | n + 1 => clock.wake (clock.tick start ms n) ms

variable {start : Nat}

theorem tick_tick (m n : Nat) : clock.tick (clock.tick start ms m) ms n = clock.tick start ms (m + n) := by
  induction n with
  | zero => rfl
  | succ n ih =>
    show clock.wake (clock.tick (clock.tick start ms m) ms n) ms = clock.wake (clock.tick start ms (m + n)) ms
    rw [ih]

theorem tick_strictMono (h : 0 < ms) : StrictMono (clock.tick start ms) :=
  strictMono_nat_of_lt_succ fun _ => lt_wake h

/-- As long as the clock can tell them, the moments lie at equal distances. -/
theorem tick_eq {n : Nat} (h : ms ≤ sleepLimit ∨ start + n * ms ≤ clock.horizon) :
    clock.tick start ms n = start + n * ms := by
  induction n with
  | zero => rw [Nat.zero_mul, Nat.add_zero, tick]
  | succ n ih =>
    rw [Nat.succ_mul] at h ⊢
    have hbefore : clock.tick start ms n = start + n * ms := ih (by omega)
    have hreaches : clock.Reaches (start + n * ms) ms := by
      unfold Reaches
      omega
    rw [tick, hbefore, wake_of_reaches hreaches]
    omega

/-- So they do up to a time from which the clock can tell one more. -/
theorem tick_eq_of_le {time n : Nat} (hreaches : clock.Reaches time ms) (h : clock.tick start ms n ≤ time) :
    clock.tick start ms n = start + n * ms := by
  induction n with
  | zero => rw [Nat.zero_mul, Nat.add_zero, tick]
  | succ n ih =>
    have hle : clock.tick start ms n ≤ time := Nat.le_trans (Nat.le_add_right _ _) h
    have hnext : clock.Reaches (clock.tick start ms n) ms := by
      unfold Reaches at hreaches ⊢
      omega
    rw [tick, wake_of_reaches hnext, ih hle, Nat.succ_mul, Nat.add_assoc]

/-- The number of moments up to a time from which the clock can tell one more. -/
theorem eq_of_lt_iff_tick_le {time n : Nat} (hpos : 0 < ms) (hstart : start ≤ time) (hreaches : clock.Reaches time ms)
    (h : ∀ k, k < n ↔ clock.tick start ms k ≤ time) : n = (time - start) / ms + 1 := by
  have hdiv := Nat.div_add_mod (time - start) ms
  have hmod := Nat.mod_lt (time - start) hpos
  generalize (time - start) / ms = q at hdiv
  have hlast : start + q * ms ≤ time := by
    rw [Nat.mul_comm]
    omega
  have hnext : time < start + (q + 1) * ms := by
    rw [Nat.succ_mul, Nat.mul_comm q ms]
    omega
  unfold Reaches at hreaches
  have hin : q < n := by
    rw [h, tick_eq (by omega)]
    exact hlast
  have hout : ¬q + 1 < n := by
    rw [h, tick_eq (by rw [Nat.succ_mul]; omega)]
    omega
  omega

end Failsafe.Clock
