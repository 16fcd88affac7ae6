import Failsafe.Incident
import Mathlib.Algebra.Group.Nat.Defs

/-!
# The last attempt

`Incident.isFinal?` counts in machine words. As long as the number of the next attempt fits in a word, it is
the comparison of plain numbers (`isFinal?_of_lt`), and an attempt that comes after a final one is final
(`isFinal?_mono`). The one count without an answer is the last that a word holds (`isFinal?_eq_none_iff`).

No word allows more attempts than a word can count, so the attempt at the count before is final for every incident
(`isFinal?_of_lastButOne`): what is lost at the last count is an answer that was yes already. To compare the wrapped
words instead would say no (`maxRetries_le_wrapped_iff`).
-/

namespace Failsafe

namespace Incident

variable {incident : Incident}

/-- The number of the next attempt wraps around at the last count. -/
theorem next_eq_zero_iff : incident.retryCount + 1 = 0 ↔ incident.retryCount.toNat + 1 = 2 ^ 32 := by
  have hlt := incident.retryCount.toNat_lt
  rw [← UInt32.toNat_inj, UInt32.toNat_add, UInt32.toNat_one, UInt32.toNat_zero]
  omega

theorem isFinal?_of_lt (h : incident.retryCount.toNat + 1 < 2 ^ 32) :
    incident.isFinal? = some (decide (incident.maxRetries.toNat ≤ incident.retryCount.toNat + 1)) := by
  have hnext : (incident.retryCount + 1).toNat = incident.retryCount.toNat + 1 := by
    rw [UInt32.toNat_add]
    exact Nat.mod_eq_of_lt h
  have hne : ¬ incident.retryCount + 1 = 0 := fun hzero => absurd (next_eq_zero_iff.mp hzero) (Nat.ne_of_lt h)
  unfold isFinal?
  rw [if_neg hne]
  simp only [UInt32.le_iff_toNat_le, hnext]

theorem isFinal?_eq_none_iff : incident.isFinal? = none ↔ incident.retryCount.toNat + 1 = 2 ^ 32 := by
  rw [← next_eq_zero_iff]
  unfold isFinal?
  split
  · next hzero => exact iff_of_true rfl hzero
  · next hne => exact iff_of_false (by simp) hne

/-- There is an answer at every other count. -/
theorem isSome_isFinal?_iff : incident.isFinal?.isSome = true ↔ incident.retryCount.toNat + 1 < 2 ^ 32 := by
  have hlt := incident.retryCount.toNat_lt
  rw [← Option.ne_none_iff_isSome, Ne, isFinal?_eq_none_iff]
  omega

theorem isFinal?_eq_true_iff : incident.isFinal? = some true ↔
    incident.retryCount.toNat + 1 < 2 ^ 32 ∧ incident.maxRetries.toNat ≤ incident.retryCount.toNat + 1 := by
  constructor
  · intro h
    have hlt := isSome_isFinal?_iff.mp (by rw [h]; rfl)
    rw [isFinal?_of_lt hlt] at h
    exact ⟨hlt, by simpa using h⟩
  · rintro ⟨hlt, hle⟩
    rw [isFinal?_of_lt hlt, decide_eq_true hle]

/-- An attempt after a final one is final, if there is an answer. -/
theorem isFinal?_mono {n m : UInt32} (hnm : n ≤ m) (hm : m.toNat + 1 < 2 ^ 32)
    (h : (incident.withRetryCount n).isFinal? = some true) :
    (incident.withRetryCount m).isFinal? = some true := by
  have hle : incident.maxRetries.toNat ≤ n.toNat + 1 := (isFinal?_eq_true_iff.mp h).2
  have hnm : n.toNat ≤ m.toNat := UInt32.le_iff_toNat_le.mp hnm
  exact isFinal?_eq_true_iff.mpr ⟨hm, Nat.le_trans hle (Nat.succ_le_succ hnm)⟩

/-- However many attempts are allowed, the one at the last count but one is final. -/
theorem isFinal?_of_lastButOne (h : incident.retryCount.toNat + 2 = 2 ^ 32) : incident.isFinal? = some true := by
  have hlt := incident.maxRetries.toNat_lt
  exact isFinal?_eq_true_iff.mpr ⟨by omega, by omega⟩

/-- Compared with the wrapped number of the next attempt, the attempt at the last count would be the last only if
none is allowed at all. -/
theorem maxRetries_le_wrapped_iff (h : incident.retryCount.toNat + 1 = 2 ^ 32) :
    incident.maxRetries ≤ incident.retryCount + 1 ↔ incident.maxRetries = 0 := by
  rw [next_eq_zero_iff.mpr h, UInt32.le_iff_toNat_le, UInt32.toNat_zero, Nat.le_zero, ← UInt32.toNat_inj,
    UInt32.toNat_zero]

/-- **Which attempt is the last.** For every incident and every count of attempts: whether the attempt is final
is the comparison of plain numbers if and only if the next number fits in a word, and there is no answer
otherwise; and an attempt that comes after a final one is final under the same condition. At the one count
that is excluded, the comparison of words would say no whenever an attempt is allowed. -/
theorem isFinal?_withRetryCount (incident : Incident) (n : UInt32) :
    ((incident.withRetryCount n).isFinal? = some (decide (incident.maxRetries.toNat ≤ n.toNat + 1)) ↔
      n.toNat + 1 < 2 ^ 32) ∧
    ((incident.withRetryCount n).isFinal? = none ↔ n.toNat + 1 = 2 ^ 32) ∧
    (∀ m, n ≤ m → (incident.withRetryCount n).isFinal? = some true →
      ((incident.withRetryCount m).isFinal? = some true ↔ m.toNat + 1 < 2 ^ 32)) ∧
    (n.toNat + 1 = 2 ^ 32 → (incident.maxRetries ≤ n + 1 ↔ incident.maxRetries = 0)) := by
  refine ⟨⟨fun h => ?_, fun hlt => isFinal?_of_lt hlt⟩, isFinal?_eq_none_iff, fun m hnm hn => ?_,
    @maxRetries_le_wrapped_iff (incident.withRetryCount n)⟩
  · exact isSome_isFinal?_iff.mp (by rw [h]; rfl)
  · exact ⟨fun hm => (isFinal?_eq_true_iff.mp hm).1, fun hlt => isFinal?_mono hnm hlt hn⟩

/-- A failure of an outside library, where three attempts are allowed. -/
def decodeFailed : Incident := RetryLimits.incident ⟨3, .ofSecs 1, 2.0⟩ (.call .sdk "decode") "swap" none

/-- The third of three attempts is the last, and so is every later one except at the last count: there is no
answer there, and compared with the wrapped number the attempt would not be the last. -/
theorem isFinal?_withRetryCount_third :
    (decodeFailed.withRetryCount 2).isFinal? = some true ∧ (2 : UInt32) ≤ 4294967294 ∧
      (decodeFailed.withRetryCount 4294967294).isFinal? = some true ∧
      (4294967295 : UInt32).toNat + 1 = 2 ^ 32 ∧ (decodeFailed.withRetryCount 4294967295).isFinal? = none ∧
      ¬ decodeFailed.maxRetries ≤ (4294967295 : UInt32) + 1 := by
  obtain ⟨-, -, hlater, -⟩ := isFinal?_withRetryCount decodeFailed 2
  obtain ⟨-, hnone, -, hwrapped⟩ := isFinal?_withRetryCount decodeFailed 4294967295
  refine ⟨rfl, by decide, (hlater 4294967294 (by decide) rfl).mpr (by decide), rfl, hnone.mpr rfl, ?_⟩
  rw [hwrapped rfl]
  decide

/-- The attempt before the last that a word can count is final where three are allowed, and so is the last by the
comparison of plain numbers; but there is no answer for it. -/
theorem isFinal?_lastCount :
    (decodeFailed.withRetryCount 4294967294).isFinal? = some true ∧ (4294967294 : UInt32) ≤ 4294967295 ∧
      decodeFailed.maxRetries.toNat ≤ (4294967295 : UInt32).toNat + 1 ∧
      (decodeFailed.withRetryCount 4294967295).isFinal? = none :=
  ⟨isFinal?_of_lastButOne rfl, by decide, by decide, isFinal?_eq_none_iff.mpr rfl⟩

end Incident

end Failsafe
