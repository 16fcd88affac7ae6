import Failsafe.Duration.Seconds
import Failsafe.Proofs.Float

/-!
# Which doubles are durations

`Duration.ofSeconds?` takes the doubles from zero up to, but not including, `2^64`, and no others
(`isSome_ofSeconds?_iff`). The largest double below `2^64` is `2^53 - 1` units of `2^11`, so that rounding to
nanoseconds never reaches the limit from below.
-/

namespace Failsafe

open Float.Model Float.Model.UnpackedFloat

theorem roundHalfEven_le (n d : Nat) : roundHalfEven n d ≤ n / d + 1 := by
  unfold roundHalfEven
  dsimp only
  split
  · omega
  · split
    · have := Nat.mod_lt (n / d) (show 0 < 2 by decide)
      omega
    · exact Nat.le_refl _

namespace Duration

/-- The first number of seconds that is no duration: `2^64`. -/
def limitSeconds : Float := 18446744073709551616.0

theorem unpack_limitSeconds : limitSeconds.toModel.unpack = .finite .positive (2 ^ 52) 12 (by decide) := rfl

theorem nearestNanos_lt_iff {m : Nat} {e : Int} (hm : m < 2 ^ 53) (hleast : -1074 ≤ e)
    (hform : 2 ^ 52 ≤ m ∨ e = -1074) : nearestNanos m e < limit ↔ e < 12 := by
  unfold nearestNanos limit second
  cases e with
  | ofNat k =>
    have hlimit : 18446744073709551616 * 1000000000 = 2 ^ 52 * 2 ^ 12 * 1000000000 := by decide
    simp only [Nat.pow_eq]
    rw [hlimit, Nat.mul_lt_mul_right (by decide), Int.ofNat_eq_natCast]
    constructor
    · -- From the exponent 12 on, the least mantissa already reaches the limit.
      intro hlt
      by_contra hge
      have hm' : 2 ^ 52 ≤ m := hform.resolve_right (by rw [Int.ofNat_eq_natCast]; omega)
      have hk : 2 ^ 12 ≤ 2 ^ k := Nat.pow_le_pow_right (by decide) (by omega)
      exact absurd hlt (Nat.not_lt.mpr (Nat.mul_le_mul hm' hk))
    · intro hk
      have hk' : 2 ^ k ≤ 2 ^ 11 := Nat.pow_le_pow_right (by decide) (by omega)
      calc m * 2 ^ k ≤ m * 2 ^ 11 := Nat.mul_le_mul_left _ hk'
        _ < 2 ^ 53 * 2 ^ 11 := Nat.mul_lt_mul_of_pos_right hm (by decide)
        _ = 2 ^ 52 * 2 ^ 12 := by decide
  | negSucc k =>
    -- A fraction of a second is far below the limit, whichever way it is rounded.
    refine iff_of_true ?_ (by omega)
    have hround := roundHalfEven_le (m * 1000000000) (2 ^ (k + 1))
    have hdiv := Nat.div_le_self (m * 1000000000) (2 ^ (k + 1))
    simp only [Nat.pow_eq]
    omega

theorem isSome_ofNanos?_iff (n : Nat) : (ofNanos? n).isSome = true ↔ n < limit := by
  unfold ofNanos?
  split <;> simp_all

/-- With 53 digits in the mantissa, the exponent alone tells what lies below `2^64`. -/
theorem then_eq_lt_iff {m : Nat} {e : Int} (hform : 2 ^ 52 ≤ m ∨ e = -1074) :
    (compare e 12).then (compare m (2 ^ 52)) = .lt ↔ e < 12 := by
  rcases lt_trichotomy e 12 with hlt | rfl | hgt
  · rw [Int.compare_eq_lt.mpr hlt]
    exact iff_of_true rfl hlt
  · rw [Int.compare_eq_eq.mpr rfl]
    exact iff_of_false (fun h => absurd (Nat.compare_eq_lt.mp h) (by omega)) (by omega)
  · rw [Int.compare_eq_gt.mpr hgt]
    exact iff_of_false (by simp) (by omega)

/-- **Which doubles are durations.** A double is a duration, as a number of seconds, if and only if it is
finite, not negative, and below `2^64`. -/
theorem isSome_ofSeconds?_iff (x : Float) :
    (ofSeconds? x).isSome = true ↔ x.isFinite = true ∧ ¬ x < 0.0 ∧ x < limitSeconds := by
  have hzero : (0.0 : Float).toModel.unpack = .zero .positive := rfl
  rw [lt_iff_compare, lt_iff_compare, isFinite_iff, unpack_limitSeconds, hzero]
  unfold ofSeconds?
  cases hx : x.toModel.unpack with
  | infinity sign => simp [UnpackedFloat.isFinite]
  | notANumber => simp [UnpackedFloat.isFinite]
  | zero sign => simp [UnpackedFloat.isFinite, UnpackedFloat.compare]
  | finite sign m e hm =>
    cases sign with
    | negative => simp [UnpackedFloat.compare]
    | positive =>
      obtain ⟨hbelow, hleast, hform⟩ := unpack_finite hx
      dsimp only [UnpackedFloat.isFinite, UnpackedFloat.compare]
      rw [isSome_ofNanos?_iff, nearestNanos_lt_iff hbelow hleast hform]
      simp only [Option.some.injEq, reduceCtorEq, not_false_eq_true, true_and]
      exact (then_eq_lt_iff hform).symm

end Duration

end Failsafe
