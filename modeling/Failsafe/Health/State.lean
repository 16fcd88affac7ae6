import Failsafe.Named

/-!
# States of health

How important a component is (`Priority`, the most important first) and how the system as a whole is doing
(`SystemState`, in ascending order of trouble).
-/

namespace Failsafe

/-- How important a component is. -/
inductive Priority where
  | critical
  | high
  | medium
  | low
deriving DecidableEq, Repr

namespace Priority

def all : List Priority := [critical, high, medium, low]

def name : Priority → String
  | critical => "CRITICAL"
  | high => "HIGH"
  | medium => "MEDIUM"
  | low => "LOW"

/-- Priorities from critical to low. -/
def rank (p : Priority) : Nat := all.idxOf p

end Priority

instance : Named Priority := ⟨Priority.all, Priority.name, fun a => by cases a <;> rfl⟩

/-- How the system is doing. -/
inductive SystemState where
  | normal
  | degraded
  | critical
deriving DecidableEq, Repr

namespace SystemState

def all : List SystemState := [normal, degraded, critical]

def name : SystemState → String
  | normal => "NORMAL"
  | degraded => "DEGRADED"
  | critical => "CRITICAL"

/-- States from normal to critical. -/
def rank (s : SystemState) : Nat := all.idxOf s

/-- The name of a state where it is shown as a part of another value. -/
def label : SystemState → String
  | normal => "Normal"
  | degraded => "Degraded"
  | critical => "Critical"

end SystemState

instance : Named SystemState := ⟨SystemState.all, SystemState.name, fun a => by cases a <;> rfl⟩

end Failsafe
