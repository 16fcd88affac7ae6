import Failsafe.Duration
import Failsafe.Json

/-!
# Actions

What to do about an incident: try again after a delay, possibly with adjusted parameters, give up, give up
and escalate, or stop trading altogether. The constructors below are the only shapes a decision takes.
-/

namespace Failsafe

/-- The outcome of a decision. -/
structure Action where
  shouldRetry : Bool
  delay : Duration
  /-- Parameters to set before the next attempt. -/
  adjustments : Option Fields
  escalate : Bool
  stopTrading : Bool

namespace Action

/-- Try again after a delay. -/
def retryAfter (delay : Duration) : Action :=
  { shouldRetry := true, delay, adjustments := none, escalate := false, stopTrading := false }

/-- No further attempt. -/
def giveUp : Action :=
  { shouldRetry := false, delay := .zero, adjustments := none, escalate := false, stopTrading := false }

/-- No further attempt of anything. -/
def halt : Action := { giveUp with stopTrading := true }

/-- No further attempt, and somebody has to look. -/
def escalation : Action := { giveUp with escalate := true }

/-- The action with one parameter to set before the next attempt. -/
def adjusting (action : Action) (key : String) (factor : Float) : Action :=
  { action with adjustments := some [(key, .ofFloat factor)] }

def adjusts (action : Action) : Bool := action.adjustments.isSome

end Action

end Failsafe
