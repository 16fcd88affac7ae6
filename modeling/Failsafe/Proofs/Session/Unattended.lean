import Failsafe.Proofs.Health.Diagram
import Failsafe.Proofs.Session.Moves

/-!
# Without background loops

Runs and sleeps have nothing to do with the registry. What changes it beside them is the background loops, so a session
without loops keeps its registry through every run (`run_unattended`). A report is then the registry's own, with the
restart handler ending as the hook answers (`report_reportThrough`): nobody comes between its two halves.
-/

namespace Failsafe

/-- How a hook that is a restart handler ends; one that panics has no result. -/
def HookAnswer.result : HookAnswer → Except String Unit
  | .done | .panicked => .ok ()
  | .failed text => .error text

namespace Session

/-- If no background loop is there at `s`, none has come until `s'`, and the registry is the same. -/
structure Unattended (s s' : Session) : Prop where
  tasks : s.tasks = [] → s'.tasks = []
  registry : s.tasks = [] → s'.registry = s.registry

namespace Unattended

variable {s s' s'' : Session}

theorem refl (s : Session) : s.Unattended s := ⟨id, fun _ => rfl⟩

theorem trans (h : s.Unattended s') (h' : s'.Unattended s'') : s.Unattended s'' :=
  ⟨fun hs => h'.tasks (h.tasks hs), fun hs => (h'.registry (h.tasks hs)).trans (h.registry hs)⟩

/-- Whatever leaves loops and registry alone does so without loops. -/
theorem of_same (htasks : s'.tasks = s.tasks) (hregistry : s'.registry = s.registry) : s.Unattended s' :=
  ⟨fun hs => htasks.trans hs, fun _ => hregistry⟩

end Unattended

variable (s : Session)

/-! ## Sleeps and runs -/

theorem callHook_unattended (hook : Nat) : s.Unattended (s.callHook hook).1 := by
  unfold callHook
  split <;> exact .of_same rfl rfl

/-- Without loops nothing falls due but the timers of the breaker. -/
theorem happen_unattended (moment : Nat) (what : Due) : s.Unattended (s.happen moment what) := by
  cases what with
  | cooldown => exact .of_same rfl rfl
  | task i =>
    have hsame : s.tasks = [] → s.runTask i = s := by
      intro hloops
      unfold runTask
      rw [hloops]
      rfl
    refine ⟨fun hloops => ?_, fun hloops => ?_⟩
    · show (s.runTask i).tasks = []
      rw [hsame hloops]
      exact hloops
    · show (s.runTask i).registry = s.registry
      rw [hsame hloops]

theorem throughTime_unattended : ThroughTime Unattended where
  refl := Unattended.refl
  trans := Unattended.trans
  happen := happen_unattended
  clock := fun _ _ => .of_same rfl rfl

theorem sleep_unattended (deadline : Option Nat) (ms : Nat) : s.Unattended (s.sleep deadline ms).1 :=
  throughTime_unattended.sleep s deadline ms

theorem throughSleep_unattended : ThroughSleep Unattended where
  refl := Unattended.refl
  trans := Unattended.trans
  sleep := sleep_unattended
  sideEffect := fun _ effect => by cases effect <;> exact .of_same rfl rfl

/-- A run leaves the registry alone, as the executor does. -/
theorem run_unattended (deadline : Option Nat) (request : RunRequest) : s.Unattended (s.run deadline request).1 :=
  throughSleep_unattended.run (fun _ _ => .of_same rfl rfl) (fun _ _ => .of_same rfl rfl) (fun _ => .of_same rfl rfl)
    s deadline request

variable {s}

/-! ## Reports -/

/-- How the restart handlers end that would be called now. -/
def restartEnds (s : Session) (handler : Nat) : Except String Unit := (s.callHook handler).2.answer.result

theorem report_none {name : String} (h : s.registry.find? name = none) (deadline : Option Nat) (error : String)
    (isCritical : Bool) :
    s.report deadline name error isCritical = (s, .finished (.error (.componentNotFound name))) := by
  rw [report_eq, Registry.beginReport_none h]

/-- Without background loops a report that is not dropped is the registry's own. -/
theorem report_reportThrough {deadline : Option Nat} {name error : String} {isCritical : Bool}
    {finished : FinishedReport} (htasks : s.tasks = [])
    (hreport : s.registry.reportThrough name error isCritical s.restartEnds = .ok finished)
    (hends : (s.report deadline name error isCritical).2 ≠ .cancelled) :
    (s.report deadline name error isCritical).1.registry = finished.registry ∧
      (s.report deadline name error isCritical).1.tasks = [] := by
  rw [report_eq] at hends ⊢
  obtain ⟨begun, reported, hbegin, ⟨outcome, rfl, -, hend⟩ | ⟨rfl, -, hend⟩ | ⟨handler, rfl, -, hend⟩⟩ :=
    Registry.reportThrough_cases hreport
  · rw [hbegin]
    dsimp only
    rw [hend]
    exact ⟨rfl, htasks⟩
  · rw [hbegin]
    dsimp only
    rw [hend]
    exact ⟨rfl, htasks⟩
  · rw [hbegin] at hends ⊢
    dsimp only at hends ⊢
    have hanswer : (callHook { s with registry := begun } handler).2 = (s.callHook handler).2 := by
      unfold callHook
      dsimp only
      split <;> rfl
    unfold restartEnds at hend
    rw [← hanswer] at hend
    -- While the handler is at work the registry stays as the first half has left it.
    have hbegun := (callHook_unattended { s with registry := begun } handler).trans
      (sleep_unattended _ deadline (callHook { s with registry := begun } handler).2.takes)
    rcases hsleep : (callHook { s with registry := begun } handler).1.sleep deadline
      (callHook { s with registry := begun } handler).2.takes with ⟨woken, _ | _⟩
    · rw [hsleep] at hends
      exact absurd rfl hends
    · rw [hsleep] at hbegun hends
      dsimp only at hends ⊢
      have hregistry : woken.registry = begun := hbegun.registry htasks
      cases hended : (callHook { s with registry := begun } handler).2.answer with
      | done =>
        rw [hended] at hend
        dsimp only
        rw [hregistry, show begun.endReport name (.ok ()) = _ from hend]
        exact ⟨rfl, hbegun.tasks htasks⟩
      | failed text =>
        rw [hended] at hend
        dsimp only
        rw [hregistry, show begun.endReport name (.error text) = _ from hend]
        exact ⟨rfl, hbegun.tasks htasks⟩
      | panicked =>
        rw [hended] at hends
        exact absurd rfl hends

end Session

end Failsafe
