import Failsafe.Duration.Seconds
import Failsafe.Error
import Failsafe.Health.Resource
import Failsafe.Incident

/-!
# Settings

All that can be tuned, in five sections, with a default for every value. `Settings.validate` checks the
sections in order and names the first value that is out of bounds.
-/

namespace Failsafe

/-- Attempts and delays of a retried operation. -/
structure RetrySettings where
  /-- Attempts in all, the first included. -/
  maxRetries : UInt32
  baseDelaySeconds : Float
  /-- Ceiling of the delays that grow from the base delay. -/
  maxDelaySeconds : Float
  backoffMultiplier : Float
deriving DecidableEq

/-- When the breaker activates and for how long. -/
structure BreakerSettings where
  failureThreshold : UInt32
  cooldownSeconds : UInt64
deriving DecidableEq

/-- Thresholds of each resource and how often they are polled. -/
structure ResourceSettings where
  pollIntervalSeconds : UInt64
  cpu : Thresholds
  memory : Thresholds
  disk : Thresholds
  network : Thresholds
deriving DecidableEq

structure SecuritySettings where
  /-- Whether secrets are redacted before anything is logged. -/
  secureFailureMode : Bool
deriving DecidableEq

structure ValidationSettings where
  checkIntervalSeconds : UInt64
deriving DecidableEq

structure Settings where
  retry : RetrySettings
  breaker : BreakerSettings
  resources : ResourceSettings
  security : SecuritySettings
  validation : ValidationSettings
deriving DecidableEq

/-! ## Defaults -/

def RetrySettings.default : RetrySettings := ⟨3, 1.0, 60.0, 2.0⟩

def BreakerSettings.default : BreakerSettings := ⟨5, 300⟩

def ResourceSettings.default : ResourceSettings :=
  ⟨30, ⟨70.0, 90.0⟩, ⟨80.0, 95.0⟩, ⟨85.0, 95.0⟩, ⟨80.0, 95.0⟩⟩

def SecuritySettings.default : SecuritySettings := ⟨true⟩

def ValidationSettings.default : ValidationSettings := ⟨60⟩

def Settings.default : Settings := ⟨.default, .default, .default, .default, .default⟩

/-! ## Checks -/

/-- Refuses a value unless a condition holds. -/
def require (condition : Bool) (field value context : String) : Except SettingsError Unit :=
  if condition then .ok () else .error (.invalidValue field value context)

namespace RetrySettings

/-- The base delay, if it is a duration. -/
def baseDelay? (r : RetrySettings) : Option Duration := Duration.ofSeconds? r.baseDelaySeconds

/-- The longest delay, if it is a duration. -/
def maxDelay? (r : RetrySettings) : Option Duration := Duration.ofSeconds? r.maxDelaySeconds

/-- What the incidents of a retried operation have in common, if the base delay is a duration. -/
def limits? (r : RetrySettings) : Option RetryLimits :=
  r.baseDelay?.map fun baseDelay =>
    { maxRetries := r.maxRetries, baseDelay, backoffMultiplier := r.backoffMultiplier }

def validate (r : RetrySettings) : Except SettingsError Unit := do
  require (r.maxRetries != 0) "retry.max_retries" "0" "must be greater than 0"
  require (r.baseDelaySeconds.isFinite && !(r.baseDelaySeconds < 0.0))
    "retry.base_delay_seconds" (Decimal.plain.write r.baseDelaySeconds) "must be a non-negative number"
  require (r.maxDelaySeconds.isFinite && !(r.maxDelaySeconds < r.baseDelaySeconds))
    "retry.max_delay_seconds" (Decimal.plain.write r.maxDelaySeconds)
    "must be at least base_delay_seconds"
  require (r.backoffMultiplier.isFinite && !(r.backoffMultiplier < 1.0))
    "retry.backoff_multiplier" (Decimal.plain.write r.backoffMultiplier) "must be >= 1.0"

end RetrySettings

namespace BreakerSettings

def cooldown (b : BreakerSettings) : Duration := .ofSecs b.cooldownSeconds

def validate (b : BreakerSettings) : Except SettingsError Unit := do
  require (b.failureThreshold != 0) "circuit_breaker.failure_threshold" "0" "must be greater than 0"
  require (b.cooldownSeconds != 0) "circuit_breaker.cooldown_seconds" "0" "must be greater than 0"

end BreakerSettings

/-- Whether a threshold is a percentage. -/
def isPercentage (x : Float) : Bool := x.isFinite && 0.0 ≤ x && x ≤ 100.0

def Thresholds.validate (t : Thresholds) (field : String) : Except SettingsError Unit := do
  let value := Decimal.plain.write t.warning ++ "/" ++ Decimal.plain.write t.critical
  require (isPercentage t.warning && isPercentage t.critical) field value
    "thresholds must be percentages between 0 and 100"
  require (!(t.warning ≥ t.critical)) field value "warning threshold must be below critical threshold"

namespace ResourceSettings

def pollInterval (r : ResourceSettings) : Duration := .ofSecs r.pollIntervalSeconds

def thresholds (r : ResourceSettings) : ResourceKind → Thresholds
  | .cpu => r.cpu
  | .memory => r.memory
  | .disk => r.disk
  | .network => r.network

def validate (r : ResourceSettings) : Except SettingsError Unit := do
  require (r.pollIntervalSeconds != 0) "resources.poll_interval_seconds" "0" "must be greater than 0"
  ResourceKind.all.forM fun kind => (r.thresholds kind).validate ("resources." ++ kind.name)

end ResourceSettings

namespace ValidationSettings

def checkInterval (v : ValidationSettings) : Duration := .ofSecs v.checkIntervalSeconds

def validate (v : ValidationSettings) : Except SettingsError Unit :=
  require (v.checkIntervalSeconds != 0) "validation.check_interval_seconds" "0" "must be greater than 0"

end ValidationSettings

/-- Checks every section; the first value out of bounds is the error. -/
def Settings.validate (s : Settings) : Except SettingsError Unit := do
  s.retry.validate
  s.breaker.validate
  s.resources.validate
  s.validation.validate

end Failsafe
