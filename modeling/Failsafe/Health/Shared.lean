import Failsafe.Health.Registry

/-!
# A registry in shared use

Several callers use a registry at once. Every call is over at once but one: the report of a failure that
restarts a component waits until the restart handler has ended, and the calls of others come in between. The
reports that wait are kept in the order they began; their handlers may end, and their callers may drop them,
in any order.

A call that fails leaves everything as it was. What becomes of calls whose accesses come between those of others is not
told here.
-/

namespace Failsafe

/-- A report that waits for a restart handler. -/
structure WaitingReport where
  component : String
  handler : Nat
deriving DecidableEq

/-- A registry with the reports that wait, and the events so far, oldest first. -/
structure SharedRegistry where
  registry : Registry
  waiting : List WaitingReport
  events : List Event

/-- What happens to a registry in shared use. -/
inductive RegistryCall where
  | register (name : String) (priority : Priority) (restart : Option Nat)
  | report (name error : String) (isCritical : Bool)
  /-- The handler that a report waits for has ended. -/
  | restartEnded (index : Nat) (result : Except String Unit)
  /-- A report that waits is dropped. -/
  | reportDropped (index : Nat)
  | reset (name : String)
  | disablePriority (priority : Priority) (reason : String)
  | updateResource (kind : ResourceKind) (usage : Float)
  | setThresholds (kind : ResourceKind) (thresholds : Thresholds)
  | setConsistent (value : Bool)

namespace SharedRegistry

/-- An empty registry that nobody has used yet. -/
def new (resources : ResourceSettings) (redactor : Redactor) : SharedRegistry :=
  { registry := .new resources redactor, waiting := [], events := [] }

/-- Takes over a registry and the events of changing it. -/
def changed (s : SharedRegistry) (registry : Registry) (events : List Event) : SharedRegistry :=
  { s with registry, events := s.events ++ events }

/-- A call, or what it failed with. -/
def call (s : SharedRegistry) : RegistryCall → Except Error SharedRegistry
  | .register name priority restart => do
    let (registry, events) ← s.registry.register name priority restart
    .ok (s.changed registry events)
  | .report name error isCritical => do
    let (registry, reported) ← s.registry.beginReport name error isCritical
    match reported with
    | .settled outcome =>
      let (registry, events, _) ← registry.concludeReport name outcome
      .ok (s.changed registry events)
    | .restarting none =>
      let (registry, events, _) ← registry.endReport name (.ok ())
      .ok (s.changed registry events)
    | .restarting (some handler) => .ok { s with registry, waiting := s.waiting ++ [⟨name, handler⟩] }
  | .restartEnded index result =>
    match s.waiting[index]? with
    | some report => do
      let (registry, events, _) ← s.registry.endReport report.component result
      .ok { s.changed registry events with waiting := s.waiting.eraseIdx index }
    | none => .ok s
  | .reportDropped index => .ok { s with waiting := s.waiting.eraseIdx index }
  | .reset name => do
    let (registry, events, _) ← s.registry.reset name
    .ok (s.changed registry events)
  | .disablePriority priority reason =>
    let (registry, events, _) := s.registry.disablePriority priority reason
    .ok (s.changed registry events)
  | .updateResource kind usage =>
    let (registry, events, _) := s.registry.updateResource kind usage
    .ok (s.changed registry events)
  | .setThresholds kind thresholds => do
    let (registry, events) ← s.registry.setThresholds kind thresholds
    .ok (s.changed registry events)
  | .setConsistent value =>
    let (registry, events) := s.registry.setConsistent value
    .ok (s.changed registry events)

/-- What a call leaves behind. -/
def step (s : SharedRegistry) (c : RegistryCall) : SharedRegistry :=
  match s.call c with
  | .ok s => s
  | .error _ => s

/-- Calls one after the other. -/
def play (s : SharedRegistry) (calls : List RegistryCall) : SharedRegistry := calls.foldl step s

end SharedRegistry

end Failsafe
