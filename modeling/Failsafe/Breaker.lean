import Failsafe.Clock
import Failsafe.Settings

/-!
# The circuit breaker

A breaker counts consecutive failures and becomes active when their number reaches a threshold. While it is
active nothing is attempted. It becomes inactive when its cooldown has passed or when an operator resets it;
a success only takes the count back to zero.

Every activation starts a timer that sleeps through the cooldown, on the clock of the breaker, and then clears
the breaker. The breaker holds on to its last timer: a reset, a shutdown and the next activation call that timer
off, so that it never wakes. After a shutdown an active breaker therefore stays active until it is reset.

Activations and resets also raise the breaker's generation. A timer remembers the generation it was started
in, and one that wakes in another generation does nothing.
-/

namespace Failsafe

/-- A cooldown timer that sleeps. -/
structure CooldownTimer where
  /-- When it wakes. -/
  wakeAt : Nat
  /-- The generation of the breaker it was started in. -/
  generation : UInt64
deriving DecidableEq

/-- Whether a timer has slept long enough. -/
def CooldownTimer.isDue (t : CooldownTimer) (now : Nat) : Bool := t.wakeAt ≤ now

/-- A gate that fails fast after too many failures in a row. -/
structure Breaker where
  name : String
  threshold : UInt32
  cooldown : Duration
  /-- Whether cooldown timers can run. -/
  timed : Bool
  clock : Clock
  active : Bool
  consecutive : Nat
  /-- Raised by every activation and every reset. -/
  generation : UInt64
  activatedAt : Option Nat
  /-- The timers that sleep, in the order they were started. -/
  sleeping : List CooldownTimer
  /-- The timer the breaker can call off. -/
  held : Option CooldownTimer
  totalFailures : Nat
  totalSuccesses : Nat
  activations : Nat
deriving DecidableEq

/-- Figures of a breaker at one moment, with times of type `τ`. -/
structure BreakerMetrics (τ : Type) where
  active : Bool
  consecutiveFailures : UInt64
  failureThreshold : UInt32
  cooldown : Duration
  activatedAt : Option τ
  totalFailures : UInt64
  totalSuccesses : UInt64
  activationCount : UInt64
deriving DecidableEq

namespace Breaker

/-- A breaker that has seen nothing yet. -/
def new (name : String) (settings : BreakerSettings) (timed : Bool) (clock : Clock := .short) : Breaker :=
  { name
    threshold := settings.failureThreshold
    cooldown := settings.cooldown
    timed
    clock
    active := false
    consecutive := 0
    generation := 0
    activatedAt := none
    sleeping := []
    held := none
    totalFailures := 0
    totalSuccesses := 0
    activations := 0 }

/-- When a cooldown that starts now is over. -/
def cooldownEnd (b : Breaker) (now : Nat) : Nat := b.clock.wake now b.cooldown.millisUp

/-- Calls off the timer the breaker holds on to: it never wakes. -/
def callOff (b : Breaker) : Breaker :=
  match b.held with
  | some timer => { b with sleeping := b.sleeping.erase timer, held := none }
  | none => b

/-- Starts a timer of the present generation, in the place of the one held so far. -/
def startTimer (b : Breaker) (now : Nat) : Breaker :=
  if b.timed then
    let timer : CooldownTimer := ⟨b.cooldownEnd now, b.generation⟩
    let b := b.callOff
    { b with sleeping := b.sleeping ++ [timer], held := some timer }
  else b

/-- Activates the breaker and starts the timer of the activation. -/
def activate (b : Breaker) (now : Nat) : Breaker :=
  let activated := { b with
    active := true
    activatedAt := some now
    activations := b.activations + 1
    generation := b.generation + 1 }
  activated.startTimer now

/-- Counts a failure; the one that reaches the threshold activates an inactive breaker. -/
def recordFailure (b : Breaker) (now : Nat) : Breaker :=
  let counted := { b with
    totalFailures := b.totalFailures + 1
    consecutive := b.consecutive + 1 }
  if b.threshold.toNat ≤ counted.consecutive ∧ !b.active then counted.activate now else counted

/-- Counts a success. The breaker stays as active as it was. -/
def recordSuccess (b : Breaker) : Breaker :=
  { b with totalSuccesses := b.totalSuccesses + 1, consecutive := 0 }

/-- Back to inactive. -/
def clear (b : Breaker) : Breaker := { b with active := false, consecutive := 0, activatedAt := none }

/-- An operator clears the breaker and calls its timer off. -/
def reset (b : Breaker) : Breaker :=
  let b := { b with generation := b.generation + 1 }
  b.callOff.clear

/-- Calls the timer off and changes nothing else. -/
def shutdown (b : Breaker) : Breaker := b.callOff

/-- A timer wakes: it clears the breaker unless another generation has begun since it was started. -/
def wake (b : Breaker) (timer : CooldownTimer) : Breaker :=
  let b := { b with sleeping := b.sleeping.erase timer }
  if timer.generation = b.generation then { b with held := none }.clear else b

/-- What the time being `now` does: the timers that are due wake. -/
def expire (b : Breaker) (now : Nat) : Breaker := (b.sleeping.filter (·.isDue now)).foldl wake b

/-- When the next timer wakes. -/
def nextWake (b : Breaker) : Option Nat := (b.sleeping.map (·.wakeAt)).min?

def metrics (b : Breaker) : BreakerMetrics Nat :=
  { active := b.active
    consecutiveFailures := b.consecutive.toUInt64
    failureThreshold := b.threshold
    cooldown := b.cooldown
    activatedAt := b.activatedAt
    totalFailures := b.totalFailures.toUInt64
    totalSuccesses := b.totalSuccesses.toUInt64
    activationCount := b.activations.toUInt64 }

end Breaker

end Failsafe
