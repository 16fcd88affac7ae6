import Failsafe.Duration
import Failsafe.Failure.Classify
import Failsafe.Json

/-!
# Incidents

An incident is a classified failure together with the attempt it ended: which operation, which attempt
(counted from 0), how many are allowed, and what the backoff starts from. `Incident.isFinal?` tells whether
the attempt was the last one allowed.
-/

namespace Failsafe

/-- A classified failure of one attempt. -/
structure Incident where
  kindName : String
  message : String
  category : Category
  severity : Severity
  operation : String
  /-- The attempt that failed, counted from 0. -/
  retryCount : UInt32
  maxRetries : UInt32
  backoffMultiplier : Float
  baseDelay : Duration
  /-- The parameters the attempt ran with. -/
  data : Option Fields
deriving BEq

namespace Incident

/-- The same incident, attributed to another attempt. -/
def withRetryCount (incident : Incident) (n : UInt32) : Incident := { incident with retryCount := n }

/-- Whether no attempt is allowed after this one. There is no answer for the last attempt a counter can
number, because the number of the next does not fit. -/
def isFinal? (incident : Incident) : Option Bool :=
  if incident.retryCount + 1 = 0 then none
  else some (incident.maxRetries ≤ incident.retryCount + 1)

end Incident

/-- What every incident of a classifier has in common. -/
structure RetryLimits where
  maxRetries : UInt32
  baseDelay : Duration
  backoffMultiplier : Float

/-- The incident of a failure in the first attempt. -/
def RetryLimits.incident (limits : RetryLimits) (failure : Failure) (operation : String)
    (data : Option Fields) : Incident :=
  let (category, severity) := classify failure.kind failure.message
  { kindName := failure.kindName
    message := failure.message
    category
    severity
    operation
    retryCount := 0
    maxRetries := limits.maxRetries
    backoffMultiplier := limits.backoffMultiplier
    baseDelay := limits.baseDelay
    data }

end Failsafe
