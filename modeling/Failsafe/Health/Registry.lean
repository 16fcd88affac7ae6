import Failsafe.Event
import Failsafe.Named
import Failsafe.Settings

/-!
# The component registry

Named components with priorities, the watched resources, and whether the outside state is consistent. From
these the system state is derived (`derive`) and kept beside them; `refresh` brings it up to date and is an
event when it changes.

What a reported failure does depends on the priority:

* low: the component is disabled;
* medium: it is degraded if the failure is critical, otherwise the failure is only counted;
* high, critical: it is restarted; it is healthy again if that succeeds and degraded if it fails.

A component that is degraded or disabled stays so until it is reset: further failures are only counted.

A report that restarts a component has two halves, `beginReport` and `endReport`, because the restart takes
time; other operations may come in between. A report ends with `concludeReport`, which refreshes the system
state.
-/

namespace Failsafe

/-- What is known of a component. -/
structure ComponentStatus where
  name : String
  priority : Priority
  active : Bool
  healthy : Bool
  errorCount : UInt64
  degraded : Bool
  reason : Option String
deriving DecidableEq

namespace ComponentStatus

/-- A component that has just been registered. -/
def fresh (name : String) (priority : Priority) : ComponentStatus :=
  { name, priority, active := true, healthy := true, errorCount := 0, degraded := false, reason := none }

/-- Still running, but not as it should. -/
def degrade (s : ComponentStatus) (reason : String) : ComponentStatus :=
  { s with healthy := false, degraded := true, reason := some reason }

/-- Not running any more. -/
def disable (s : ComponentStatus) (reason : String) : ComponentStatus :=
  { s.degrade reason with active := false }

/-- Running well again; the last reason is kept. -/
def revive (s : ComponentStatus) : ComponentStatus :=
  { s with active := true, healthy := true, degraded := false }

/-- Running well again, and nothing held against it. -/
def reset (s : ComponentStatus) : ComponentStatus := { s.revive with reason := none }

/-- Counts a failure. -/
def countFailure (s : ComponentStatus) (reason : String) : ComponentStatus :=
  { s with errorCount := s.errorCount + 1, reason := some reason }

/-- Degraded or disabled. -/
def isDown (s : ComponentStatus) : Bool := s.degraded || !s.active

end ComponentStatus

/-- A component with the number of its restart handler, if it has one. -/
structure Component where
  status : ComponentStatus
  restart : Option Nat
deriving DecidableEq

/-- What a reported failure led to. -/
inductive DegradationOutcome where
  | disabled
  | degraded
  | restarted
  | restartFailed
  /-- Counted, and nothing else. -/
  | recorded
deriving DecidableEq, Repr

namespace DegradationOutcome

def all : List DegradationOutcome := [disabled, degraded, restarted, restartFailed, recorded]

def name : DegradationOutcome → String
  | disabled => "disabled"
  | degraded => "degraded"
  | restarted => "restarted"
  | restartFailed => "restart_failed"
  | recorded => "recorded"

end DegradationOutcome

instance : Named DegradationOutcome := ⟨DegradationOutcome.all, DegradationOutcome.name, fun a => by cases a <;> rfl⟩

/-- The result of a report, with the component's status as a value of type `σ`. -/
structure Degradation (σ : Type) where
  component : String
  outcome : DegradationOutcome
  status : σ
  systemState : SystemState

/-- The four watched resources. -/
structure ResourceTable where
  cpu : Constraint
  memory : Constraint
  disk : Constraint
  network : Constraint
deriving DecidableEq

namespace ResourceTable

def get (t : ResourceTable) : ResourceKind → Constraint
  | .cpu => t.cpu
  | .memory => t.memory
  | .disk => t.disk
  | .network => t.network

def set (t : ResourceTable) (kind : ResourceKind) (c : Constraint) : ResourceTable :=
  match kind with
  | .cpu => { t with cpu := c }
  | .memory => { t with memory := c }
  | .disk => { t with disk := c }
  | .network => { t with network := c }

/-- Every resource with its thresholds, not yet measured. -/
def ofSettings (r : ResourceSettings) : ResourceTable :=
  let fresh kind := Constraint.fresh kind (r.thresholds kind)
  { cpu := fresh .cpu, memory := fresh .memory, disk := fresh .disk, network := fresh .network }

def toList (t : ResourceTable) : List Constraint := ResourceKind.all.map t.get

end ResourceTable

/-- The registry of components and resources. -/
structure Registry where
  /-- In the order of their names. -/
  components : List Component
  resources : ResourceTable
  consistent : Bool
  state : SystemState
  redactor : Redactor
deriving DecidableEq

/-- Everything the registry knows at one moment. -/
structure HealthSnapshot where
  state : SystemState
  components : List ComponentStatus
  resources : List Constraint
  consistent : Bool

/-- The system state that components, resources and consistency call for. -/
def deriveState (components : List ComponentStatus) (resources : List Constraint) (consistent : Bool) :
    SystemState :=
  if components.any (fun c => c.priority = .critical && !c.healthy)
      || resources.any (fun r => r.level = .critical) then .critical
  else if components.any (fun c => (c.priority = .high && !c.healthy) || c.degraded) || !consistent then
    .degraded
  else .normal

/-- How a report goes on after its first half. -/
inductive Reported where
  | settled (outcome : DegradationOutcome)
  /-- The component is down until its restart, by the numbered handler if there is one, has ended. -/
  | restarting (handler : Option Nat)

namespace Registry

/-- An empty registry. -/
def new (resources : ResourceSettings) (redactor : Redactor) : Registry :=
  { components := []
    resources := .ofSettings resources
    consistent := true
    state := .normal
    redactor }

/-- The state the registry's contents call for. -/
def derive (r : Registry) : SystemState :=
  deriveState (r.components.map (·.status)) r.resources.toList r.consistent

/-- Brings the system state up to date. -/
def refresh (r : Registry) : Registry × List Event :=
  let next := r.derive
  ({ r with state := next }, if r.state = next then [] else [.stateChanged r.state next])

def find? (r : Registry) (name : String) : Option Component :=
  r.components.find? (·.status.name = name)

/-- The status of a registered component. -/
def status (r : Registry) (name : String) : Except Error ComponentStatus :=
  match r.find? name with
  | some c => .ok c.status
  | none => .error (.componentNotFound name)

/-- Changes the status of the component with a name. -/
def modify (r : Registry) (name : String) (f : ComponentStatus → ComponentStatus) : Registry :=
  let change (c : Component) := if c.status.name = name then { c with status := f c.status } else c
  { r with components := r.components.map change }

/-- Changes the status of a registered component. -/
def updateStatus (r : Registry) (name : String) (f : ComponentStatus → ComponentStatus) :
    Except Error Registry :=
  match r.find? name with
  | some _ => .ok (r.modify name f)
  | none => .error (.componentNotFound name)

/-- Puts a component at its place in the order of names. -/
def insertByName (c : Component) : List Component → List Component
  | [] => [c]
  | other :: rest =>
    if c.status.name < other.status.name then c :: other :: rest else other :: insertByName c rest

/-- Registers a component under a name that is still free. -/
def register (r : Registry) (name : String) (priority : Priority) (restart : Option Nat) :
    Except Error (Registry × List Event) :=
  match r.find? name with
  | some _ => .error (.duplicateComponent name)
  | none =>
    let c : Component := ⟨.fresh name priority, restart⟩
    .ok { r with components := insertByName c r.components }.refresh

/-- The first half of a report: the failure is counted and the priority decides what follows. -/
def beginReport (r : Registry) (name error : String) (isCritical : Bool) :
    Except Error (Registry × Reported) :=
  let reason := r.redactor.text error
  match r.find? name with
  | none => .error (.componentNotFound name)
  | some c =>
    let counted := r.modify name (·.countFailure reason)
    if c.status.isDown then .ok (counted, .settled .recorded)
    else match c.status.priority with
      | .low => do
        let r ← counted.updateStatus name (·.disable reason)
        .ok (r, .settled .disabled)
      | .medium =>
        if isCritical then do
          let r ← counted.updateStatus name (·.degrade reason)
          .ok (r, .settled .degraded)
        else .ok (counted, .settled .recorded)
      | .high | .critical => do
        let r ← counted.updateStatus name (fun s => { s with healthy := false })
        .ok (r, .restarting c.restart)

/-- The end of a restart, successful or with the text of what went wrong. -/
def finishRestart (r : Registry) (name : String) (result : Except String Unit) :
    Except Error (Registry × DegradationOutcome) :=
  match result with
  | .ok _ => do
    let r ← r.updateStatus name (·.revive)
    .ok (r, .restarted)
  | .error text => do
    let failure := Error.restartFailed name (r.redactor.text text)
    let r ← r.updateStatus name (·.degrade failure.message)
    .ok (r, .restartFailed)

/-- The end of a report: the system state is refreshed and the component's status read. -/
def concludeReport (r : Registry) (name : String) (outcome : DegradationOutcome) :
    Except Error (Registry × List Event × Degradation ComponentStatus) := do
  let (r, events) := r.refresh
  let status ← r.status name
  .ok (r, events, { component := name, outcome, status, systemState := r.state })

/-- The second half of a report whose restart has ended. -/
def endReport (r : Registry) (name : String) (result : Except String Unit) :
    Except Error (Registry × List Event × Degradation ComponentStatus) := do
  let (r, outcome) ← r.finishRestart name result
  r.concludeReport name outcome

/-- An operator brings a component back. -/
def reset (r : Registry) (name : String) : Except Error (Registry × List Event × ComponentStatus) := do
  let r ← r.updateStatus name (·.reset)
  let status ← r.status name
  let (r, events) := r.refresh
  .ok (r, events, status)

/-- Whether a component is an active one of a priority. -/
def isActiveOf (priority : Priority) (c : Component) : Bool :=
  c.status.priority = priority && c.status.active

/-- Disables every active component of a priority and names them. -/
def disablePriority (r : Registry) (priority : Priority) (reason : String) :
    Registry × List Event × List String :=
  let names := (r.components.filter (isActiveOf priority)).map (·.status.name)
  let change (c : Component) :=
    if isActiveOf priority c then { c with status := c.status.disable reason } else c
  let r := { r with components := r.components.map change }
  if names.isEmpty then (r, [], names)
  else
    let (r, events) := r.refresh
    (r, events, names)

/-- Records the use of a resource and gives the level it falls in. -/
def updateResource (r : Registry) (kind : ResourceKind) (usage : Float) :
    Registry × List Event × ResourceLevel :=
  let c := { r.resources.get kind with usage, updated := true }
  let (r, events) := { r with resources := r.resources.set kind c }.refresh
  (r, events, c.level)

/-- Replaces the thresholds of a resource. -/
def setThresholds (r : Registry) (kind : ResourceKind) (thresholds : Thresholds) :
    Except Error (Registry × List Event) :=
  if thresholds.warning.isNaN || thresholds.critical.isNaN || thresholds.warning ≥ thresholds.critical then
    .error (.invalidThreshold kind.name thresholds.warning thresholds.critical)
  else
    let c := { r.resources.get kind with thresholds }
    .ok { r with resources := r.resources.set kind c }.refresh

/-- Records whether the outside state is consistent. -/
def setConsistent (r : Registry) (consistent : Bool) : Registry × List Event :=
  { r with consistent }.refresh

def snapshot (r : Registry) : HealthSnapshot :=
  { state := r.state
    components := r.components.map (·.status)
    resources := r.resources.toList
    consistent := r.consistent }

/-- A short text for people who look into a running system. -/
def text (r : Registry) : String :=
  "ComponentHealthRegistry \x7b system_state: " ++ r.state.label ++ ", state_consistent: "
    ++ toString r.consistent ++ ", .. \x7d"

end Registry

end Failsafe
