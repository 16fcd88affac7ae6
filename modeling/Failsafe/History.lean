import Failsafe.Incident
import Failsafe.Redaction.Tree
import Failsafe.Tally

/-!
# History

The most recent incidents, up to a capacity, and counts over all incidents ever recorded. `summary` shows
the counts and the last few incidents with texts and parameters redacted.
-/

namespace Failsafe

/-- Incidents kept when nothing else is asked for. -/
def historyCapacity : Nat := 100

/-- Incidents shown in a summary. -/
def summaryLength : Nat := 10

/-- A bounded record of incidents, oldest first. -/
structure History where
  capacity : Nat
  entries : List Incident
  total : Nat
  byCategory : Tally Category
  bySeverity : Tally Severity
  escalations : Nat

/-- What a summary shows of an incident. -/
structure RecentError where
  operation : String
  category : Category
  severity : Severity
  message : String
  retryCount : UInt32
  data : Option Fields

/-- Counts over all incidents, and recent ones as values of type `ε`. What never occurred has no count. -/
structure Summary (ε : Type) where
  totalErrors : UInt64
  retained : UInt64
  escalations : UInt64
  byCategory : Category → Option UInt64
  bySeverity : Severity → Option UInt64
  recent : List ε

namespace History

/-- An empty history; there is room for one incident at least. -/
def withCapacity (n : Nat) : History :=
  { capacity := max n 1
    entries := []
    total := 0
    byCategory := []
    bySeverity := []
    escalations := 0 }

def empty : History := withCapacity historyCapacity

/-- Records an incident; when there is no room the oldest goes. -/
def record (h : History) (incident : Incident) : History :=
  let kept := if h.entries.length = h.capacity then h.entries.tail else h.entries
  { h with
    entries := kept ++ [incident]
    total := h.total + 1
    byCategory := h.byCategory.add incident.category
    bySeverity := h.bySeverity.add incident.severity }

def recordEscalation (h : History) : History := { h with escalations := h.escalations + 1 }

def size (h : History) : Nat := h.entries.length

def isEmpty (h : History) : Bool := h.entries.isEmpty

/-- The last incidents, `limit` at most, newest last. -/
def recent (h : History) (limit : Nat) : List Incident := h.entries.drop (h.entries.length - limit)

end History

/-- What a summary shows of an incident. -/
def Incident.recentError (incident : Incident) (redactor : Redactor) : RecentError :=
  { operation := incident.operation
    category := incident.category
    severity := incident.severity
    message := redactor.text incident.message
    retryCount := incident.retryCount
    data := incident.data.map redactor.fields }

/-- The counts and the last incidents, redacted. -/
def History.summary (h : History) (redactor : Redactor) : Summary RecentError :=
  { totalErrors := h.total.toUInt64
    retained := h.size.toUInt64
    escalations := h.escalations.toUInt64
    byCategory := fun key => (h.byCategory.count? key).map Nat.toUInt64
    bySeverity := fun key => (h.bySeverity.count? key).map Nat.toUInt64
    recent := (h.recent summaryLength).map (·.recentError redactor) }

end Failsafe
