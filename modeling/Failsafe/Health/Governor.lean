import Failsafe.Health.Registry

/-!
# The resource governor

The governor records a use of a resource in the registry and reacts to the level it falls in:

* memory: critical use disables the active components of low priority, a warning runs the cleanup hook;
* cpu: critical use sets the throttle flag, any other clears it;
* disk: critical use lowers the log level through its hook.

Calls of hooks are part of the reaction; the governor does not depend on what they answer.
-/

namespace Failsafe

/-- What the governor did. -/
inductive GovernorAction where
  | disabledLowPriority (components : List String)
  | reducedProcessingFrequency
  | logLevelLowered
  | forcedCleanup
deriving DecidableEq, Repr

/-- Throttle flag and hooks; a hook is known by its number. -/
structure Governor where
  throttled : Bool
  logControl : Option Nat
  cleanup : Option Nat
deriving DecidableEq

/-- A governor after one sample, the registry after it, and what happened. -/
structure Reaction where
  governor : Governor
  registry : Registry
  actions : List GovernorAction
  events : List Event
  /-- The hook that was called. -/
  called : Option Nat

/-- The reason given for components disabled for want of memory. -/
def memoryReason : String := "memory usage critical"

namespace Governor

def new : Governor := { throttled := false, logControl := none, cleanup := none }

/-- The throttle flag after a sample: a sample of the cpu sets or clears it, no other touches it. -/
def throttleAfter (g : Governor) (kind : ResourceKind) (level : ResourceLevel) : Bool :=
  if kind = .cpu then level = .critical else g.throttled

/-- Handles one sample. -/
def handle (g : Governor) (r : Registry) (kind : ResourceKind) (usage : Float) : Reaction :=
  let (r, events, level) := r.updateResource kind usage
  let g := { g with throttled := g.throttleAfter kind level }
  let reaction (actions : List GovernorAction) (called : Option Nat) : Reaction :=
    { governor := g, registry := r, actions, events, called }
  match kind, level with
  | .memory, .critical =>
    let (r, more, names) := r.disablePriority .low memoryReason
    { governor := g
      registry := r
      actions := [.disabledLowPriority names]
      events := events ++ more
      called := none }
  | .memory, .warning => reaction [.forcedCleanup] g.cleanup
  | .cpu, .critical => reaction [.reducedProcessingFrequency] none
  | .disk, .critical => reaction [.logLevelLowered] g.logControl
  | _, _ => reaction [] none

/-- A short text for people who look into a running system. -/
def text (g : Governor) : String :=
  "ResourceGovernor \x7b processing_throttled: " ++ toString g.throttled ++ ", has_log_control: "
    ++ toString g.logControl.isSome ++ ", has_cleanup_hook: " ++ toString g.cleanup.isSome ++ " \x7d"

end Governor

end Failsafe
