/-!
# The clock

Time is a number of milliseconds. A sleep ends when its milliseconds have passed, unless that moment lies beyond the
horizon of the clock, the last moment that can be told: a sleep that would end later ends after thirty years. Sleeps
of up to thirty years end in time in any case.

The horizon of the system clock is so far away that only sleeps of billions of years come near it.
-/

namespace Failsafe

/-- Thirty years: how long a sleep lasts that would end beyond the horizon. -/
def sleepLimit : Nat := 946080000000

/-- A clock, given by its horizon. -/
structure Clock where
  horizon : Nat
deriving DecidableEq

namespace Clock

/-- The clock on which no sleep lasts longer than thirty years. -/
def short : Clock := ⟨0⟩

/-- Whether a sleep that begins `now` ends when its milliseconds have passed. -/
def Reaches (clock : Clock) (now ms : Nat) : Prop := ms ≤ sleepLimit ∨ now + ms ≤ clock.horizon

instance (clock : Clock) (now ms : Nat) : Decidable (clock.Reaches now ms) :=
  inferInstanceAs (Decidable (_ ∨ _))

/-- How long a sleep lasts that begins `now`. -/
def lasts (clock : Clock) (now ms : Nat) : Nat := if clock.Reaches now ms then ms else sleepLimit

/-- When a sleep ends that begins `now`. -/
def wake (clock : Clock) (now ms : Nat) : Nat := now + clock.lasts now ms

end Clock

end Failsafe
