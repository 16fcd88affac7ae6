import Failsafe.Health.State
import Failsafe.Incident
import Failsafe.Named
import Failsafe.Redaction.Tree

/-!
# Log events

The events that operators watch: a failed attempt, an escalation, trading halted and resumed, and a change of
the system state. The texts and parameters in them have been through a `Redactor`.
-/

namespace Failsafe

/-- How urgent a log line is. -/
inductive LogLevel where
  | error
  | warn
  | info
  | debug
  | trace
deriving DecidableEq, Repr

namespace LogLevel

def all : List LogLevel := [error, warn, info, debug, trace]

def name : LogLevel → String
  | error => "ERROR"
  | warn => "WARN"
  | info => "INFO"
  | debug => "DEBUG"
  | trace => "TRACE"

end LogLevel

instance : Named LogLevel := ⟨LogLevel.all, LogLevel.name, fun a => by cases a <;> rfl⟩

/-- A failed attempt as it is logged. -/
structure FailureReport where
  operation : String
  category : Category
  severity : Severity
  retryCount : UInt32
  maxRetries : UInt32
  message : String

/-- A failure that somebody has to look at, as it is logged. -/
structure EscalationReport where
  operation : String
  kindName : String
  category : Category
  severity : Severity
  retryCount : UInt32
  message : String
  data : Option Fields
  reason : String

inductive Event where
  | operationFailed (report : FailureReport)
  | escalation (report : EscalationReport)
  | tradingHalted (operation : String) (category : Category) (breakerActive : Bool)
  | tradingResumed
  | stateChanged (before after : SystemState)

namespace Event

/-- How urgent an event is. -/
def level : Event → LogLevel
  | operationFailed report =>
    match report.severity with
    | .low | .medium => .warn
    | .high | .critical => .error
  | escalation _ => .error
  | tradingHalted _ _ _ => .error
  | tradingResumed => .warn
  | stateChanged _ after =>
    match after with
    | .critical => .error
    | .degraded => .warn
    | .normal => .info

/-- The event of a failed attempt. -/
def ofIncident (incident : Incident) (redactor : Redactor) : Event :=
  .operationFailed
    { operation := incident.operation
      category := incident.category
      severity := incident.severity
      retryCount := incident.retryCount
      maxRetries := incident.maxRetries
      message := redactor.text incident.message }

/-- The event of an escalation. -/
def ofEscalation (incident : Incident) (redactor : Redactor) (reason : String) : Event :=
  .escalation
    { operation := incident.operation
      kindName := incident.kindName
      category := incident.category
      severity := incident.severity
      retryCount := incident.retryCount
      message := redactor.text incident.message
      data := incident.data.map redactor.fields
      reason }

end Event

end Failsafe
