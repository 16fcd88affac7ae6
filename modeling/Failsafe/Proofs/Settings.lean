import Failsafe.Settings
import Failsafe.Proofs.Duration.Seconds

/-!
# What valid settings say

The checks on the delays are about the order of doubles: finite, not negative, and the ceiling not below the
base (`RetrySettings.validate_ok_iff`). They do not ask whether a delay is a duration. Since the ceiling is the
larger of the two, the ceiling decides for both (`delays_of_validate`).

The checks on the thresholds see to it that no resource is at its critical level before it has been measured
(`ResourceSettings.level_of_validate`).
-/

namespace Failsafe

theorem require_ok_iff (condition : Bool) (field value context : String) :
    require condition field value context = .ok () ↔ condition = true := by
  unfold require
  split <;> simp_all

theorem bind_ok_iff {ε : Type} (first rest : Except ε Unit) :
    (first >>= fun _ => rest) = .ok () ↔ first = .ok () ∧ rest = .ok () := by
  cases first with
  | error e => simp [bind, Except.bind]
  | ok _ => simp [bind, Except.bind]

namespace RetrySettings

theorem validate_ok_iff (r : RetrySettings) :
    r.validate = .ok () ↔
      r.maxRetries ≠ 0 ∧
      (r.baseDelaySeconds.isFinite = true ∧ ¬ r.baseDelaySeconds < 0.0) ∧
      (r.maxDelaySeconds.isFinite = true ∧ ¬ r.maxDelaySeconds < r.baseDelaySeconds) ∧
      (r.backoffMultiplier.isFinite = true ∧ ¬ r.backoffMultiplier < 1.0) := by
  unfold validate
  rw [bind_ok_iff, bind_ok_iff, bind_ok_iff, require_ok_iff, require_ok_iff, require_ok_iff, require_ok_iff]
  simp

/-- The ceiling decides whether the delays of valid settings are durations. -/
theorem delays_of_validate {r : RetrySettings} (h : r.validate = .ok ()) :
    (r.maxDelaySeconds < Duration.limitSeconds → r.baseDelay?.isSome = true ∧ r.maxDelay?.isSome = true) ∧
    (¬ r.maxDelaySeconds < Duration.limitSeconds → r.maxDelay? = none) := by
  obtain ⟨-, ⟨hbase, hnonneg⟩, ⟨hmax, hle⟩, -⟩ := (validate_ok_iff r).mp h
  unfold baseDelay? maxDelay?
  refine ⟨fun htop => ?_, fun htop => ?_⟩
  · have hzero : (0.0 : Float).isFinite = true := rfl
    have hlimit : Duration.limitSeconds.isFinite = true := rfl
    -- Counted in units of the smallest double: `0 ≤ base ≤ ceiling < limit`.
    rw [Duration.isSome_ofSeconds?_iff, Duration.isSome_ofSeconds?_iff]
    rw [lt_iff_scaled hbase hzero] at hnonneg
    rw [lt_iff_scaled hmax hbase] at hle
    rw [lt_iff_scaled hmax hlimit] at htop
    refine ⟨⟨hbase, ?_, ?_⟩, hmax, ?_, ?_⟩
    · rwa [lt_iff_scaled hbase hzero]
    · rw [lt_iff_scaled hbase hlimit]
      omega
    · rw [lt_iff_scaled hmax hzero]
      omega
    · rwa [lt_iff_scaled hmax hlimit]
  · rw [← Option.not_isSome_iff_eq_none, Duration.isSome_ofSeconds?_iff]
    exact fun hsome => htop hsome.2.2

end RetrySettings

theorem Settings.retry_of_validate {s : Settings} (h : s.validate = .ok ()) : s.retry.validate = .ok () := by
  unfold validate at h
  rw [bind_ok_iff] at h
  exact h.1

/-! ## Thresholds -/

theorem forM_ok_iff {ε α : Type} (f : α → Except ε Unit) (l : List α) :
    l.forM f = .ok () ↔ ∀ a ∈ l, f a = .ok () := by
  induction l with
  | nil => simp [pure, Except.pure]
  | cons a rest ih =>
    show (f a >>= fun _ => rest.forM f) = .ok () ↔ _
    rw [bind_ok_iff, ih, List.forall_mem_cons]

/-- A resource nobody has measured yet is below the critical threshold: thresholds are not negative, and the
critical one lies above the other. -/
theorem Thresholds.level_of_validate {t : Thresholds} {field : String} (h : t.validate field = .ok ()) :
    t.level 0.0 ≠ .critical := by
  unfold Thresholds.validate at h
  dsimp only at h
  rw [bind_ok_iff, require_ok_iff, require_ok_iff] at h
  obtain ⟨hpercent, hbelow⟩ := h
  simp only [isPercentage, Bool.and_eq_true, decide_eq_true_eq] at hpercent
  obtain ⟨⟨⟨hwarning, hnonneg⟩, -⟩, ⟨hcritical, -⟩, -⟩ := hpercent
  have hzero : (0.0 : Float).isFinite = true := rfl
  have hbelow : ¬ t.critical ≤ t.warning := by simpa using hbelow
  rw [le_iff_scaled hcritical hwarning] at hbelow
  rw [le_iff_scaled hzero hwarning] at hnonneg
  have habove : ¬ t.critical ≤ 0.0 := by
    rw [le_iff_scaled hcritical hzero]
    omega
  unfold Thresholds.level
  rw [if_neg habove]
  split <;> simp

theorem ResourceSettings.level_of_validate {r : ResourceSettings} (h : r.validate = .ok ())
    (kind : ResourceKind) : (r.thresholds kind).level 0.0 ≠ .critical := by
  unfold ResourceSettings.validate at h
  rw [bind_ok_iff, forM_ok_iff] at h
  exact Thresholds.level_of_validate (h.2 kind (Named.mem_all kind))

/-! ## Loops -/

/-- No loop is to have its turns all at once. -/
theorem Settings.intervals_of_validate {s : Settings} (h : s.validate = .ok ()) :
    s.resources.pollIntervalSeconds ≠ 0 ∧ s.validation.checkIntervalSeconds ≠ 0 := by
  unfold validate ResourceSettings.validate ValidationSettings.validate at h
  rw [bind_ok_iff, bind_ok_iff, bind_ok_iff, bind_ok_iff, require_ok_iff, require_ok_iff] at h
  obtain ⟨-, -, ⟨hpoll, -⟩, hcheck⟩ := h
  exact ⟨by simpa using hpoll, by simpa using hcheck⟩

end Failsafe
