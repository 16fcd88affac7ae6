import Failsafe.Breaker

/-!
# Driving a breaker

The operations on a breaker as data, and a breaker on a clock of its own: `ClockedBreaker.sleep` moves the
clock, and the timers that are due wake. `ClockedBreaker.play` carries out operations and sleeps in order.
-/

namespace Failsafe

/-- An operation on a breaker. -/
inductive BreakerCommand where
  | failure (times : Nat)
  | success (times : Nat)
  | reset
  | shutdown
  | metrics
deriving DecidableEq, Repr

/-- The breaker after an operation, at a time. -/
def Breaker.apply (b : Breaker) (now : Nat) : BreakerCommand → Breaker
  | .failure times => times.repeat (·.recordFailure now) b
  | .success times => times.repeat (·.recordSuccess) b
  | .reset => b.reset
  | .shutdown => b.shutdown
  | .metrics => b

/-- An operation on a breaker, or a sleep of some milliseconds. -/
inductive BreakerStep where
  | command (command : BreakerCommand)
  | sleep (ms : Nat)
deriving DecidableEq, Repr

/-- A breaker and the time. -/
structure ClockedBreaker where
  now : Nat
  breaker : Breaker
deriving DecidableEq

namespace ClockedBreaker

/-- A breaker that has seen nothing yet, on a clock that starts now. -/
def new (name : String) (settings : BreakerSettings) (timed : Bool) (clock : Clock := .short) : ClockedBreaker :=
  { now := 0, breaker := .new name settings timed clock }

/-- Applies an operation, and then lets happen what is due. -/
def apply (c : ClockedBreaker) (command : BreakerCommand) : ClockedBreaker :=
  { c with breaker := (c.breaker.apply c.now command).expire c.now }

/-- Lets time pass. -/
def sleep (c : ClockedBreaker) (ms : Nat) : ClockedBreaker :=
  let now := c.breaker.clock.wake c.now ms
  { now, breaker := c.breaker.expire now }

def step (c : ClockedBreaker) : BreakerStep → ClockedBreaker
  | .command command => c.apply command
  | .sleep ms => c.sleep ms

/-- Carries out steps in order. -/
def play (c : ClockedBreaker) (steps : List BreakerStep) : ClockedBreaker := steps.foldl step c

end ClockedBreaker

end Failsafe
