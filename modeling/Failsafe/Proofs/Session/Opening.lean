import Failsafe.Proofs.Settings
import Failsafe.Session

/-!
# When a session opens

Settings that are not valid are refused with their error. Settings that are valid open a session if and only if
the longest delay they allow is below `2^64` seconds (`open?_of_validate`): the checks admit every finite delay, but
not every finite delay is a duration.
-/

namespace Failsafe

namespace Session

variable {settings : Settings} {clock : Clock} {s : Session}

theorem isSome_ofSettings? (hbase : settings.retry.baseDelay?.isSome = true)
    (hmax : settings.retry.maxDelay?.isSome = true) : (new? settings clock).isSome = true := by
  obtain ⟨base, hbase⟩ := Option.isSome_iff_exists.mp hbase
  obtain ⟨longest, hmax⟩ := Option.isSome_iff_exists.mp hmax
  unfold new? Executor.ofSettings? RetrySettings.limits?
  rw [hbase, hmax]
  rfl

theorem new?_eq_none (hmax : settings.retry.maxDelay? = none) : new? settings clock = none := by
  unfold new? Executor.ofSettings?
  rw [hmax]
  cases settings.retry.limits? <;> rfl

/-- Nothing has happened in the session yet. -/
structure Fresh (settings : Settings) (s : Session) : Prop where
  breaker : s.executor.breaker = .new "rpc" settings.breaker true s.clock
  history : s.executor.history = .empty
  redactor : s.executor.redactor = ⟨settings.security.secureFailureMode⟩
  registry : s.registry = .new settings.resources s.executor.redactor
  tasks : s.tasks = []
  log : s.log = []

/-- A session that opens has an executor with the limits and the longest delay of the settings, and nothing else. -/
theorem new?_eq_some (h : new? settings clock = some s) :
    ∃ limits maxDelay, s =
      { now := 0
        clock
        settings
        executor :=
          { limits
            policy := ⟨maxDelay⟩
            redactor := ⟨settings.security.secureFailureMode⟩
            breaker := .new "rpc" settings.breaker true clock
            history := .empty
            halted := false }
        registry := .new settings.resources ⟨settings.security.secureFailureMode⟩
        governor := .new
        hooks := []
        tasks := []
        log := []
        panicked := false } := by
  unfold new? Executor.ofSettings? at h
  cases hlimits : settings.retry.limits? with
  | none =>
    rw [hlimits] at h
    exact absurd h (by simp)
  | some limits =>
    cases hmax : settings.retry.maxDelay? with
    | none =>
      rw [hlimits, hmax] at h
      exact absurd h (by simp)
    | some longest =>
      rw [hlimits, hmax] at h
      exact ⟨limits, longest, (Option.some.inj h).symm⟩

theorem new?_fresh (h : new? settings clock = some s) : Fresh settings s := by
  obtain ⟨limits, maxDelay, rfl⟩ := new?_eq_some h
  exact ⟨rfl, rfl, rfl, rfl, rfl, rfl⟩

theorem new?_halted (h : new? settings clock = some s) : s.executor.halted = false := by
  obtain ⟨limits, maxDelay, rfl⟩ := new?_eq_some h
  rfl

/-- A session opens with settings that are valid. -/
theorem of_open? (h : open? settings clock = some (.ok s)) :
    settings.validate = .ok () ∧ new? settings clock = some s := by
  unfold open? at h
  cases hvalid : settings.validate with
  | error e =>
    rw [hvalid] at h
    exact absurd h (by simp)
  | ok _ =>
    rw [hvalid] at h
    exact ⟨rfl, by simpa using h⟩

/-- **When a session opens.** Settings that are not valid are refused with the error of the check. Valid ones
open a session on any clock, with both delays durations, if the longest delay they allow is below `2^64` seconds;
otherwise the longest delay is no duration and there is no session. -/
theorem open?_of_validate (settings : Settings) (clock : Clock) :
    (∀ e, settings.validate = .error e → open? settings clock = some (.error (.ofSettings e))) ∧
    (settings.validate = .ok () → settings.retry.maxDelaySeconds < Duration.limitSeconds →
      settings.retry.baseDelay?.isSome = true ∧ settings.retry.maxDelay?.isSome = true ∧
        ∃ s, open? settings clock = some (.ok s)) ∧
    (settings.validate = .ok () → ¬ settings.retry.maxDelaySeconds < Duration.limitSeconds →
      settings.retry.maxDelay? = none ∧ open? settings clock = none) := by
  refine ⟨fun e he => ?_, fun hvalid htop => ?_, fun hvalid htop => ?_⟩
  · unfold open?
    rw [he]
  · obtain ⟨hbase, hmax⟩ :=
      (RetrySettings.delays_of_validate (Settings.retry_of_validate hvalid)).1 htop
    have hnew : (new? settings clock).isSome = true := isSome_ofSettings? hbase hmax
    obtain ⟨s, hs⟩ := Option.isSome_iff_exists.mp hnew
    refine ⟨hbase, hmax, s, ?_⟩
    unfold open?
    rw [hvalid, hs]
    rfl
  · have hmax := (RetrySettings.delays_of_validate (Settings.retry_of_validate hvalid)).2 htop
    refine ⟨hmax, ?_⟩
    unfold open?
    rw [hvalid, new?_eq_none hmax]
    rfl

/-- The default settings open a session. -/
theorem open?_default :
    Settings.default.validate = .ok () ∧ Settings.default.retry.maxDelaySeconds < Duration.limitSeconds ∧
      Settings.default.retry.baseDelay?.isSome = true ∧ Settings.default.retry.maxDelay?.isSome = true ∧
        ∃ s, open? .default = some (.ok s) :=
  ⟨rfl, by decide +kernel, (open?_of_validate .default .short).2.1 rfl (by decide +kernel)⟩

/-- Settings that allow delays up to `10^20` seconds are valid, and open no session. -/
theorem open?_longDelay :
    let settings : Settings := { Settings.default with
      retry := { RetrySettings.default with maxDelaySeconds := 1e20 } }
    settings.validate = .ok () ∧ settings.retry.maxDelay? = none ∧ open? settings = none := ⟨rfl, rfl, rfl⟩

end Session

end Failsafe
