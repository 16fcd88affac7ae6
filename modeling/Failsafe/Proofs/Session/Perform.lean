import Failsafe.Proofs.Session.Sleep
import Failsafe.Session.Command

/-!
# What a command goes through

A command that asks for no run, does not resume trading and is not about the breaker calls hooks, has the governor or the
registry do something, sleeps or starts a loop. A relation that goes along with all of these goes along with the command
(`ThroughBackground.perform`), and with a report too, if it goes along with the first half of one
(`ThroughBackground.report`).
-/

namespace Failsafe

namespace Session

/-! ## Reports -/

/-- The end of a report. -/
def concluded (s : Session) : Except Error (Registry × List Event × Degradation ComponentStatus) →
    Session × Ending (Except Error (Degradation ComponentStatus))
  | .error e => (s, .finished (.error e))
  | .ok (registry, events, degradation) => ({ s with registry }.emit events, .finished (.ok degradation))

variable (s : Session)

theorem report_eq (deadline : Option Nat) (name error : String) (isCritical : Bool) :
    s.report deadline name error isCritical =
      match s.registry.beginReport name error isCritical with
      | .error e => (s, .finished (.error e))
      | .ok (registry, .settled outcome) => { s with registry }.concluded (registry.concludeReport name outcome)
      | .ok (registry, .restarting none) => { s with registry }.concluded (registry.endReport name (.ok ()))
      | .ok (registry, .restarting (some hook)) =>
        let (s, step) := { s with registry }.callHook hook
        match s.sleep deadline step.takes with
        | (s, false) => (s, .cancelled)
        | (s, true) =>
          match step.answer with
          | .done => s.concluded (s.registry.endReport name (.ok ()))
          | .failed text => s.concluded (s.registry.endReport name (.error text))
          | .panicked => ({ s with panicked := true }, .cancelled) := rfl

/-- The relation of a session to what becomes of it goes along with whatever goes on beside the runs. -/
structure ThroughBackground (R : Session → Session → Prop) : Prop extends ThroughHooks R where
  sleep : ∀ s deadline ms, R s (s.sleep deadline ms).1
  startTask : ∀ s job label period, R s (s.startTask job label period)
  /-- A hook may panic, and that is not forgotten. -/
  panicked : ∀ (s : Session) (panicked : Bool), (s.panicked = true → panicked = true) → R s { s with panicked }

namespace ThroughBackground

variable {R : Session → Session → Prop} (h : ThroughBackground R)
include h

theorem orPanic (panicked : Bool) : R s (s.orPanic panicked) := by
  refine h.panicked s _ fun hpanicked => ?_
  rw [hpanicked, Bool.true_or]

/-- A report in two halves, and the restart that it waits for; that the first half may come alone is to be shown of the
relation. -/
theorem report (hbegun : ∀ {s : Session} {registry : Registry}, s.registry.Altered registry → R s { s with registry })
    (deadline : Option Nat) (name error : String) (isCritical : Bool) :
    R s (s.report deadline name error isCritical).1 := by
  have hconcluded : ∀ (s : Session) (ended : Except Error (Registry × List Event × Degradation ComponentStatus)),
      (∀ registry events d, ended = .ok (registry, events, d) → s.registry.Concluded registry events d) →
        R s (s.concluded ended).1 := by
    intro s ended hended
    cases ended with
    | error e => exact h.refl s
    | ok done =>
      obtain ⟨registry, events, d⟩ := done
      exact h.tended (hended registry events d rfl).tended
  have hended : ∀ (s : Session) (result : Except String Unit),
      R s (s.concluded (s.registry.endReport name result)).1 :=
    fun s result => hconcluded s _ fun _ _ _ hend => Registry.endReport_concluded hend
  rw [report_eq]
  cases hbegin : s.registry.beginReport name error isCritical with
  | error e => exact h.refl s
  | ok begun =>
    obtain ⟨registry, reported⟩ := begun
    have hfirst : R s { s with registry } := hbegun (Registry.beginReport_altered hbegin)
    cases reported with
    | settled outcome =>
      exact h.trans hfirst (hconcluded _ _ fun _ _ _ hend => Registry.concludeReport_concluded (.refl _) hend)
    | restarting handler =>
      cases handler with
      | none => exact h.trans hfirst (hended { s with registry } (.ok ()))
      | some hook =>
        have hcalled := h.trans hfirst (h.callHook { s with registry } hook)
        dsimp only
        generalize Session.callHook { s with registry } hook = called at hcalled ⊢
        obtain ⟨called, step⟩ := called
        have hslept := h.trans hcalled (h.sleep called deadline step.takes)
        dsimp only
        rcases hsleep : called.sleep deadline step.takes with ⟨woken, _ | _⟩
        · rw [hsleep] at hslept
          exact hslept
        · rw [hsleep] at hslept
          dsimp only
          split
          · exact h.trans hslept (hended woken _)
          · exact h.trans hslept (hended woken _)
          · exact h.trans hslept (h.panicked woken true fun _ => rfl)

end ThroughBackground

end Session

/-! ## Commands -/

namespace Command

/-- The run a command asks for. -/
def request? : Command → Option Session.RunRequest
  | .run request | .runFor _ request => some request
  | _ => none

/-- Whether a command is about the breaker itself. -/
def touchesBreaker : Command → Bool
  | .breaker _ | .shutdown => true
  | _ => false

/-- Whether a command may report a failure. -/
def reports : Command → Bool
  | .report _ _ _ | .runFor _ _ => true
  | _ => false

end Command

namespace Session

theorem perform_report (s : Session) (name error : String) (isCritical : Bool) :
    (s.perform (.report name error isCritical)).1 = (s.report none name error isCritical).1 := by
  unfold perform
  dsimp only
  split <;> (next hreport => rw [hreport])

/-- A registration first takes note of the way to restart, if there is one. Then it is refused, or the registry is
tended. -/
theorem perform_register (s : Session) (name : String) (priority : Priority)
    (restart : Option (List HookStep)) :
    ∃ s' : Session, (s' = s ∨ ∃ script, s' = (s.addHook ("restart " ++ name) script).1) ∧
      ((s.perform (.register name priority restart)).1 = s' ∨
        ∃ (registry : Registry) (events : List Event), s'.registry.Tended registry events ∧
          (s.perform (.register name priority restart)).1 = s'.withRegistry registry events) := by
  cases restart with
  | none =>
    refine ⟨s, .inl rfl, ?_⟩
    unfold perform
    dsimp only
    split
    · next registry events hok => exact .inr ⟨registry, events, Registry.register_tended hok, rfl⟩
    · exact .inl rfl
  | some script =>
    refine ⟨_, .inr ⟨script, rfl⟩, ?_⟩
    unfold perform
    dsimp only
    split
    · next registry events hok => exact .inr ⟨registry, events, Registry.register_tended hok, rfl⟩
    · exact .inl rfl

/-- A command that asks for no run, reports no failure, does not resume trading and is not about the breaker. -/
theorem ThroughBackground.perform {R : Session → Session → Prop} (h : ThroughBackground R) (s : Session)
    {command : Command} (hrequest : command.request? = none) (hreports : command.reports = false)
    (hresume : command ≠ .resume) (htouches : command.touchesBreaker = false) : R s (s.perform command).1 := by
  cases command with
  | run request => exact absurd hrequest (by simp [Command.request?])
  | report name error isCritical => exact absurd hreports (by simp [Command.reports])
  | runFor component request => exact absurd hreports (by simp [Command.reports])
  | resume => exact absurd rfl hresume
  | breaker command => exact absurd htouches (by simp [Command.touchesBreaker])
  | shutdown => exact absurd htouches (by simp [Command.touchesBreaker])
  | register name priority restart =>
    obtain ⟨s', hs', hperform⟩ := s.perform_register name priority restart
    have hhook : R s s' := by
      rcases hs' with rfl | ⟨script, rfl⟩
      · exact h.refl _
      · exact h.addHook s _ script
    rcases hperform with hsame | ⟨registry, events, hregistry, hdone⟩
    · rw [hsame]
      exact hhook
    · rw [hdone]
      exact h.trans hhook (h.tended hregistry)
  | reset name =>
    unfold Session.perform
    dsimp only
    split
    · next registry events status hok => exact h.tended (Registry.reset_tended hok)
    · exact h.refl s
  | status name =>
    unfold Session.perform
    dsimp only
    split <;> exact h.refl s
  | disablePriority priority reason => exact h.tended (s.registry.disablePriority_tended priority reason)
  | updateResource kind usage => exact h.tended (s.registry.updateResource_tended kind usage)
  | setThresholds kind thresholds =>
    unfold Session.perform
    dsimp only
    split
    · next registry events hok => exact h.tended (Registry.setThresholds_tended hok)
    · exact h.refl s
  | setConsistent value => exact h.tended (s.registry.setConsistent_tended value)
  | handle kind usage => exact h.trans (h.handleSample s kind usage) (h.orPanic _ _)
  | poll sampling =>
    have hadded := h.addHook s "sample" []
    have hcalled := h.trans hadded (h.callHook (s.addHook "sample" []).1 s.hooks.length)
    exact h.trans (h.trans hcalled (h.handleSampling _ sampling)) (h.orPanic _ _)
  | setCleanup script => exact h.trans (h.addHook s "cleanup" script) (h.governor _ _)
  | setLogControl script => exact h.trans (h.addHook s "level error" script) (h.governor _ _)
  | sleep ms => exact h.sleep s none ms
  | startMonitor script => exact h.startTask s _ _ _
  | startValidator script => exact h.startTask s _ _ _
  | _ => exact h.refl s

end Session

end Failsafe
