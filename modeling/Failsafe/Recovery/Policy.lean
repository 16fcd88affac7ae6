import Failsafe.Duration.Seconds
import Failsafe.Incident
import Failsafe.Recovery.Action

/-!
# Recovery policy

`Policy.decide` answers an incident with an action. An active breaker halts everything; otherwise the category
decides, and for the categories of last resort also the severity.

Delays grow geometrically: `backoff base factor n` is `base · factor^n` seconds, cut at a ceiling if there is
one and at the longest duration in any case.
-/

namespace Failsafe

/-! ## Constants -/

def rateLimitBase : Float := 30.0
def rateLimitFactor : Float := 2.0
def rateLimitCeiling : Float := 300.0
def congestionBase : Float := 10.0
def congestionFactor : Float := 1.5
def timeoutFactor : Float := 1.5
def slippageDelay : Duration := .ofSecs 5

/-- The parameter that raises the priority fee, and by how much. -/
def priorityFeeKey : String := "priority_fee_multiplier"
def priorityFeeFactor : Float := 1.5

/-- The parameter that widens the slippage tolerance, and by how much. -/
def slippageKey : String := "slippage_tolerance_multiplier"
def slippageFactor : Float := 1.2

/-! ## Decisions -/

/-- The largest exponent of a backoff. -/
def maxExponent : Nat := 2147483647

/-- `base · factor^attempt` seconds, at most the ceiling. -/
def backoff (base factor : Float) (attempt : UInt32) (ceiling : Option Float) : Duration :=
  if base ≤ 0.0 then .zero
  else
    let secs := base * power factor (min attempt.toNat maxExponent)
    let capped := match ceiling with
      | some top => lesser secs top
      | none => secs
    (Duration.ofSeconds? capped).getD .max

/-- Recovery rules with a ceiling for the delays that grow from an incident's base delay. -/
structure Policy where
  maxDelay : Duration

namespace Policy

/-- A ceiling of a minute. -/
def default : Policy := ⟨.ofSecs 60⟩

/-- Whether the attempt already ran with the wider slippage tolerance. -/
def slippageWidened (incident : Incident) : Bool :=
  match incident.data with
  | some data => data.contains slippageKey
  | none => false

/-- The delay that grows from the incident's base delay. -/
def baseBackoff (policy : Policy) (incident : Incident) (factor : Float) : Duration :=
  backoff incident.baseDelay.toSeconds factor incident.retryCount (some policy.maxDelay.toSeconds)

/-- What to do about an incident. -/
def decide (policy : Policy) (incident : Incident) (breakerActive : Bool) : Action :=
  if breakerActive then .halt
  else match incident.category with
    | .rpcConnection => .retryAfter (policy.baseBackoff incident incident.backoffMultiplier)
    | .rpcTimeout => .retryAfter (policy.baseBackoff incident timeoutFactor)
    | .rpcRateLimit =>
      .retryAfter (backoff rateLimitBase rateLimitFactor incident.retryCount (some rateLimitCeiling))
    | .networkCongestion =>
      (Action.retryAfter (backoff congestionBase congestionFactor incident.retryCount none)).adjusting
        priorityFeeKey priorityFeeFactor
    | .insufficientBalance => .halt
    | .poolLiquidity => .giveUp
    | .slippageExceeded =>
      if slippageWidened incident then .giveUp
      else (Action.retryAfter slippageDelay).adjusting slippageKey slippageFactor
    | .unknown | .externalSdk | .transactionFailed =>
      if incident.severity = .critical then .escalation
      else .retryAfter (policy.baseBackoff incident incident.backoffMultiplier)

end Policy

end Failsafe
