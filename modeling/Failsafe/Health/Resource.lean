import Failsafe.Named

/-!
# Resources

The resources whose use is watched, their thresholds, and the level a use falls in: critical at or above the
critical threshold, else warning at or above the warning threshold, else normal. A use that is no number is
normal.
-/

namespace Failsafe

/-- A watched resource. -/
inductive ResourceKind where
  | cpu
  | memory
  | disk
  | network
deriving DecidableEq, Repr

namespace ResourceKind

def all : List ResourceKind := [cpu, memory, disk, network]

def name : ResourceKind → String
  | cpu => "cpu"
  | memory => "memory"
  | disk => "disk"
  | network => "network"

/-- The place of a resource in `all`. -/
def index (kind : ResourceKind) : Nat := all.idxOf kind

end ResourceKind

instance : Named ResourceKind := ⟨ResourceKind.all, ResourceKind.name, fun a => by cases a <;> rfl⟩

/-- How far the use of a resource has gone. -/
inductive ResourceLevel where
  | normal
  | warning
  | critical
deriving DecidableEq, Repr

namespace ResourceLevel

def all : List ResourceLevel := [normal, warning, critical]

def name : ResourceLevel → String
  | normal => "normal"
  | warning => "warning"
  | critical => "critical"

end ResourceLevel

instance : Named ResourceLevel := ⟨ResourceLevel.all, ResourceLevel.name, fun a => by cases a <;> rfl⟩

/-- Where the warning and the critical level begin, in percent. -/
structure Thresholds where
  warning : Float
  critical : Float
deriving DecidableEq

/-- The level of a use under given thresholds. -/
def Thresholds.level (thresholds : Thresholds) (usage : Float) : ResourceLevel :=
  if usage ≥ thresholds.critical then .critical
  else if usage ≥ thresholds.warning then .warning
  else .normal

/-- Thresholds of a resource and the last use seen. -/
structure Constraint where
  kind : ResourceKind
  thresholds : Thresholds
  usage : Float
  /-- Whether a use has been recorded. -/
  updated : Bool
deriving DecidableEq

namespace Constraint

/-- A resource nobody has measured yet. -/
def fresh (kind : ResourceKind) (thresholds : Thresholds) : Constraint :=
  { kind, thresholds, usage := 0.0, updated := false }

/-- The level of the last use seen. -/
def level (c : Constraint) : ResourceLevel := c.thresholds.level c.usage

end Constraint

end Failsafe
