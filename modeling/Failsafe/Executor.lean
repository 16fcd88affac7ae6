import Failsafe.Breaker
import Failsafe.Event
import Failsafe.History
import Failsafe.Recovery.Policy

/-!
# The retry executor

An executor owns the breaker, the history and the halt flag that all runs share. A run of an operation goes
through calls of it one at a time:

* `begin?` starts a run unless the breaker is active;
* after a call that succeeds, `succeed` ends the run;
* after a call that fails, `observe` classifies, logs and records the failure, asks the policy, and sets the
  halt flag if the policy says so; then either `advance` prepares the next call or `giveUp` ends the run.

What happens between these steps (the call itself, the delay before the next one) is not the executor's
business, and others may change the breaker meanwhile.
-/

namespace Failsafe

/-- Shared state of all runs. -/
structure Executor where
  limits : RetryLimits
  policy : Policy
  redactor : Redactor
  breaker : Breaker
  history : History
  /-- Set once a decision asked to stop trading. -/
  halted : Bool

/-- A run between two calls. -/
structure Run where
  operation : String
  params : Fields
  /-- Calls that have failed so far. -/
  attempt : Nat

/-- Why a run ended without a value. -/
inductive RunError where
  /-- The breaker was active and nothing was called. -/
  | circuitOpen (operation : String)
  /-- The last call failed, and that was the last attempt. -/
  | failed (operation : String) (failure : Failure) (attempts : Nat) (action : Action)

namespace RunError

def kindName : RunError → String
  | circuitOpen _ => "CircuitOpen"
  | failed _ _ _ _ => "Failed"

def message : RunError → String
  | circuitOpen operation => "Circuit breaker is active, " ++ operation ++ " not attempted"
  | failed operation failure attempts _ =>
    operation ++ " failed after " ++ toString attempts ++ " attempt(s): " ++ failure.message

/-- Calls made before the run ended. -/
def attempts : RunError → Nat
  | circuitOpen _ => 0
  | failed _ _ attempts _ => attempts

/-- The failure of the last call. -/
def source? : RunError → Option Failure
  | circuitOpen _ => none
  | failed _ failure _ _ => some failure

/-- Whether the caller has to stop trading. -/
def stopsTrading : RunError → Bool
  | circuitOpen _ => true
  | failed _ _ _ action => action.stopTrading

end RunError

/-- The reason given for an escalation. -/
def escalationReason : String := "unrecoverable critical failure"

namespace Executor

/-- An executor with nothing recorded, if the delays in the settings are durations. -/
def ofSettings? (settings : Settings) (clock : Clock := .short) : Option Executor := do
  let limits ← settings.retry.limits?
  let maxDelay ← settings.retry.maxDelay?
  some
    { limits
      policy := ⟨maxDelay⟩
      redactor := ⟨settings.security.secureFailureMode⟩
      breaker := .new "rpc" settings.breaker true clock
      history := .empty
      halted := false }

/-- Calls allowed in one run: one at least. -/
def maxAttempts (e : Executor) : Nat := max e.limits.maxRetries.toNat 1

/-- Starts a run, unless the breaker is active. -/
def begin? (e : Executor) (operation : String) (params : Fields) : Option Run :=
  if e.breaker.active then none else some { operation, params, attempt := 0 }

/-- A call succeeded. -/
def succeed (e : Executor) : Executor := { e with breaker := e.breaker.recordSuccess }

/-- The incident of a failed call: it carries the parameters the call ran with, if there were any. -/
def incident (e : Executor) (run : Run) (failure : Failure) : Incident :=
  let data := if run.params.isEmpty then none else some run.params
  (e.limits.incident failure run.operation data).withRetryCount run.attempt.toUInt32

/-- Sets the halt flag for an incident; setting it is an event when it was clear. -/
def halt (e : Executor) (incident : Incident) : Executor × List Event :=
  ({ e with halted := true },
   if e.halted then []
   else [.tradingHalted incident.operation incident.category e.breaker.active])

/-- Takes note of a failed call: it is classified, logged and recorded, the policy decides, and the halt flag
follows the decision. -/
def observe (e : Executor) (incident : Incident) : Executor × List Event × Action :=
  let e := { e with history := e.history.record incident }
  let logged := Event.ofIncident incident e.redactor
  let action := e.policy.decide incident e.breaker.active
  if action.stopTrading then
    let (e, events) := e.halt incident
    (e, logged :: events, action)
  else (e, [logged], action)

/-- The run after a failed call that is to be tried again. -/
def advance (run : Run) (action : Action) : Run :=
  { run with
    params := run.params.merge (action.adjustments.getD [])
    attempt := run.attempt + 1 }

/-- Ends a run after a failed call. -/
def giveUp (e : Executor) (now : Nat) (incident : Incident) (action : Action) :
    Executor × List Event :=
  let e := { e with breaker := e.breaker.recordFailure now }
  if action.escalate then
    ({ e with history := e.history.recordEscalation },
     [.ofEscalation incident e.redactor escalationReason])
  else (e, [])

/-- An operator clears the halt flag; that is an event when it was set. -/
def resume (e : Executor) : Executor × List Event :=
  ({ e with halted := false }, if e.halted then [.tradingResumed] else [])

end Executor

end Failsafe
