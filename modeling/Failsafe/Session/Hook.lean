import Failsafe.Failure
import Failsafe.Health.Resource
import Failsafe.Json

/-!
# Scripts

A session plays against the outside world from scripts: what a hook answers at each call, what a sampler or
a validator reports at each poll, and what an operation does at each call. A script that is used up goes on
with a fixed answer.
-/

namespace Failsafe

/-- What a hook answers. -/
inductive HookAnswer where
  | done
  | failed (text : String)
  | panicked
deriving DecidableEq, Repr

/-- One call of a hook: how many milliseconds it takes and what it answers. -/
structure HookStep where
  takes : Nat
  answer : HookAnswer
deriving DecidableEq, Repr

/-- What a hook does once its script is used up. -/
def HookStep.idle : HookStep := ⟨0, .done⟩

/-- A hook, with the calls made to it since they were last counted. -/
structure Hook where
  label : String
  script : List HookStep
  calls : Nat
deriving DecidableEq, Repr

/-- What a sampler gives at one poll. -/
inductive Sampling where
  | readings (samples : List (ResourceKind × Float))
  | failed
deriving DecidableEq

/-- What a validator finds: the state is consistent or not, or the check failed. -/
inductive Finding where
  | consistent (value : Bool)
  | failed
deriving DecidableEq, Repr

/-- What the consistency flag is after a check. -/
def Finding.flag : Finding → Bool
  | consistent value => value
  | failed => false

/-- What others can do, during a run, to what it shares with them. -/
inductive SideEffect where
  | breakerFailure
  | breakerSuccess
  | breakerReset
  | breakerShutdown
  | resume
deriving DecidableEq, Repr

/-- One call of an operation: how long it takes, what is done on the side right before it answers, and how it
ends. Others act at any other time too; each act comes some milliseconds after the one before. -/
structure CallStep where
  takes : Nat
  side : List SideEffect
  result : Except Failure Json
  /-- What others do while the call is under way. -/
  during : List (Nat × SideEffect) := []
  /-- What others do while the run waits for its next call. -/
  between : List (Nat × SideEffect) := []

/-- The calls of an operation in order, and what every later call does. -/
structure CallScript where
  steps : List CallStep
  fallback : CallStep

/-- The next call and the script after it. -/
def CallScript.next (s : CallScript) : CallStep × CallScript :=
  match s.steps with
  | [] => (s.fallback, s)
  | step :: rest => (step, { s with steps := rest })

end Failsafe
