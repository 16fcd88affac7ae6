import Failsafe.Proofs.Float

/-!
# Rounding to 53 digits

A result that is not exact is kept as a mantissa with two digits behind it, of which the second one stands for all
the rest: `Shows` is what they tell of the exact number. Rounding shifts the mantissa until at most 53 digits are left
before those two and the exponent is not below the least (`targetExponent`), rounds it to a whole number half a unit
away at most, and a mantissa that has grown to `2^53` by that loses a digit (`ofRounded`, `exists_rounded`).

What comes out is no farther from the exact number than any other number that 53 digits can give (`exists_nearest`).
Multiples of the same unit are at least as far because half a unit is the farthest that rounding goes. Multiples of a
finer unit end where the mantissa has its 53 digits, which is not above the exact number.
-/

namespace Failsafe

open Float.Model Float.Model.UnpackedFloat

/-- What an extended mantissa tells of a number. -/
def Shows (em : ExtendedMantissa) (v : ℚ) : Prop :=
  match em.roundBit, em.stickyBit with
  | false, false => v = em.mantissa
  | false, true => em.mantissa < v ∧ v < em.mantissa + 1 / 2
  | true, false => v = em.mantissa + 1 / 2
  | true, true => em.mantissa + 1 / 2 < v ∧ v < em.mantissa + 1

theorem shows_exact (m : ℕ) : Shows (.ofMantissaAndAccuracy m .exact) m := rfl

/-! ## Quotients -/

theorem div_eq_parts (n : ℕ) {d : ℕ} (hd : 0 < d) : (n : ℚ) / d = (n / d : ℕ) + ((n % d : ℕ) : ℚ) / d := by
  have hd' : (d : ℚ) ≠ 0 := by exact_mod_cast hd.ne'
  rw [div_eq_iff hd', add_mul, div_mul_cancel₀ _ hd']
  exact_mod_cast (Nat.div_add_mod' n d).symm

theorem div_lt_half_iff {rest d : ℕ} (hd : 0 < d) : (rest : ℚ) / d < 1 / 2 ↔ 2 * rest < d := by
  rw [div_lt_div_iff₀ (by exact_mod_cast hd) two_pos, one_mul, mul_comm]
  norm_cast

theorem half_lt_div_iff {rest d : ℕ} (hd : 0 < d) : 1 / 2 < (rest : ℚ) / d ↔ d < 2 * rest := by
  rw [div_lt_div_iff₀ two_pos (by exact_mod_cast hd), one_mul, mul_comm]
  norm_cast

theorem div_eq_half {rest d : ℕ} (hd : 0 < d) (h : 2 * rest = d) : (rest : ℚ) / d = 1 / 2 :=
  le_antisymm (not_lt.mp (mt (half_lt_div_iff hd).mp (by omega))) (not_lt.mp (mt (div_lt_half_iff hd).mp (by omega)))

/-- Division tells where the quotient lies after the last digit it gives. -/
theorem shows_fraction (n : ℕ) {d : ℕ} (hd : 0 < d) :
    Shows (.ofMantissaAndAccuracy (n / d) (accuracyOfFraction (n % d) d)) ((n : ℚ) / d) := by
  have hrest : n % d < d := Nat.mod_lt n hd
  rw [div_eq_parts n hd]
  generalize n / d = q
  generalize n % d = rest at *
  unfold accuracyOfFraction
  by_cases hzero : rest = 0
  · rw [if_pos hzero, hzero, Nat.cast_zero, zero_div, add_zero]
    exact shows_exact q
  · rw [if_neg hzero]
    have hpos : (0 : ℚ) < rest / d := div_pos (by exact_mod_cast Nat.pos_of_ne_zero hzero) (by exact_mod_cast hd)
    have hone : (rest : ℚ) / d < 1 := (div_lt_one (by exact_mod_cast hd)).mpr (by exact_mod_cast hrest)
    rcases lt_trichotomy (2 * rest) d with hlt | heq | hgt
    · have hhalf := (div_lt_half_iff hd).mpr hlt
      rw [Nat.compare_eq_lt.mpr hlt]
      show (q : ℚ) < q + rest / d ∧ (q : ℚ) + rest / d < q + 1 / 2
      constructor <;> linarith
    · rw [Nat.compare_eq_eq.mpr heq, div_eq_half hd heq]
      rfl
    · have hhalf := (half_lt_div_iff hd).mpr hgt
      rw [Nat.compare_eq_gt.mpr hgt]
      show (q : ℚ) + 1 / 2 < q + rest / d ∧ (q : ℚ) + rest / d < q + 1
      constructor <;> linarith

/-! ## Shifts -/

namespace Shows

variable {em : ExtendedMantissa} {v : ℚ}

theorem shiftRightOne_even (half : ℕ) (round sticky : Bool) :
    ExtendedMantissa.shiftRightOne ⟨2 * half, round, sticky⟩ = ⟨half, false, round || sticky⟩ := by
  simp [ExtendedMantissa.shiftRightOne]

theorem shiftRightOne_odd (half : ℕ) (round sticky : Bool) :
    ExtendedMantissa.shiftRightOne ⟨2 * half + 1, round, sticky⟩ = ⟨half, true, round || sticky⟩ := by
  simp [ExtendedMantissa.shiftRightOne]
  omega

/-- A shift drops one digit, which becomes the round digit. -/
theorem shiftRightOne (h : Shows em v) : Shows em.shiftRightOne (v / 2) := by
  obtain ⟨m, round, sticky⟩ := em
  obtain ⟨half, hm | hm⟩ := Nat.even_or_odd' m
  · rw [hm] at h ⊢
    rw [shiftRightOne_even]
    cases round <;> cases sticky <;> simp only [Shows, Bool.or_false, Bool.or_true, Nat.cast_mul, Nat.cast_ofNat] at h ⊢
    all_goals first | linarith | (constructor <;> linarith)
  · rw [hm] at h ⊢
    rw [shiftRightOne_odd]
    cases round <;> cases sticky <;>
      simp only [Shows, Bool.or_false, Bool.or_true, Nat.cast_add, Nat.cast_mul, Nat.cast_ofNat, Nat.cast_one] at h ⊢
    all_goals first | linarith | (constructor <;> linarith)

theorem shift (h : Shows em v) (n : ℕ) : Shows (em >>> n) (v / 2 ^ n) := by
  show Shows (n.repeat ExtendedMantissa.shiftRightOne em) (v / 2 ^ n)
  induction n with
  | zero => simpa [Nat.repeat] using h
  | succ n ih =>
    have hnext := ih.shiftRightOne
    rw [div_div, ← pow_succ] at hnext
    exact hnext

theorem le (h : Shows em v) : (em.mantissa : ℚ) ≤ v ∧ v < em.mantissa + 1 := by
  obtain ⟨m, round, sticky⟩ := em
  cases round <;> cases sticky <;> simp only [Shows] at h ⊢ <;> constructor <;> linarith

/-- The rounded mantissa is at most a half away. -/
theorem near (h : Shows em v) : |(em.roundedMantissa : ℚ) - v| ≤ 1 / 2 := by
  obtain ⟨m, round, sticky⟩ := em
  rw [abs_le]
  cases round <;> cases sticky <;>
    simp only [Shows, ExtendedMantissa.roundedMantissa, ExtendedMantissa.accuracy, Accuracy.roundToNearestEven] at h ⊢
  · constructor <;> linarith
  · constructor <;> linarith
  · -- A tie goes to the even neighbour, a half away like the other one.
    rw [h]
    rcases Nat.mod_two_eq_zero_or_one m with hdigit | hdigit <;> rw [hdigit] <;> push_cast <;> constructor <;> linarith
  · push_cast
    constructor <;> linarith

end Shows

/-! ## Rounding -/

/-- The exponent that a mantissa is shifted to. -/
def targetExponent (m : ℕ) (e : ℤ) : ℤ := Format.binary64.targetExponent (totalExponent m e)

theorem targetExponent_eq (m : ℕ) (e : ℤ) : targetExponent m e = max (m.log2 + e - 52) (-1074) := by
  unfold targetExponent Format.targetExponent totalExponent
  show max ((m.log2 : ℤ) + 1 + e - (1 + 52 : ℕ)) (3 - 2 ^ (11 - 1) - (1 + 52 : ℕ)) = _
  congr 1
  omega

/-- What is left of a mantissa that was rounded, `2^53` at most: in this one case it loses a digit. -/
def ofRounded (r : ℕ) (t : ℤ) : UnpackedFloat :=
  if hzero : r = 0 then .zero .positive
  else if r < 2 ^ 53 then .finite .positive r t (Nat.pos_of_ne_zero hzero)
  else .finite .positive (2 ^ 52) (t + 1) (by decide)

theorem shiftToTargetExponent_of_lt {r : ℕ} {t : ℤ} (hr : r < 2 ^ 53) (ht : -1074 ≤ t) :
    shiftToTargetExponent .binary64 r t .exact = (⟨r, false, false⟩, t) := by
  have hlog : r.log2 ≤ 52 := by
    by_cases hzero : r = 0
    · rw [hzero]
      decide
    · exact Nat.lt_succ_iff.mp ((Nat.log2_lt hzero).mpr hr)
  have hshift : (targetExponent r t - t).toNat = 0 := by
    rw [targetExponent_eq]
    omega
  show (ExtendedMantissa.ofMantissaAndAccuracy r .exact >>> (targetExponent r t - t).toNat,
    t + (targetExponent r t - t).toNat) = _
  rw [hshift]
  show ((⟨r, false, false⟩ : ExtendedMantissa), t + 0) = _
  rw [Int.add_zero]

theorem shiftToTargetExponent_carry {t : ℤ} (ht : -1074 ≤ t) :
    shiftToTargetExponent .binary64 (2 ^ 53) t .exact = (⟨2 ^ 52, false, false⟩, t + 1) := by
  have hlog : (2 ^ 53 : ℕ).log2 = 53 := Nat.log2_two_pow
  have hshift : (targetExponent (2 ^ 53) t - t).toNat = 1 := by
    rw [targetExponent_eq, hlog]
    omega
  show (ExtendedMantissa.ofMantissaAndAccuracy (2 ^ 53) .exact >>> (targetExponent (2 ^ 53) t - t).toNat,
    t + (targetExponent (2 ^ 53) t - t).toNat) = _
  rw [hshift]
  rfl

theorem mantissa_ofMantissaAndAccuracy (m : ℕ) (accuracy : Accuracy) :
    (ExtendedMantissa.ofMantissaAndAccuracy m accuracy).mantissa = m := by
  match accuracy with
  | .exact | .inexact .lt | .inexact .eq | .inexact .gt => rfl

theorem roundWithAccuracy_eq_ofRounded {m r : ℕ} {e t : ℤ} {accuracy : Accuracy} {em : ExtendedMantissa}
    (hfirst : shiftToTargetExponent .binary64 m e accuracy = (em, t)) (hem : em.roundedMantissa = r)
    (hr : r ≤ 2 ^ 53) (ht : -1074 ≤ t) :
    roundWithAccuracy .binary64 .positive m e accuracy = ofRounded r t := by
  unfold roundWithAccuracy ofRounded
  rcases Nat.lt_or_eq_of_le hr with hlt | hcarry
  · simp only [hfirst, hem, shiftToTargetExponent_of_lt hlt ht, if_pos hlt]
  · subst hcarry
    simp only [hfirst, hem, shiftToTargetExponent_carry ht]
    rfl

/-- Rounding shifts the mantissa to the target, rounds it to a whole number at most a half away, and settles the
carry. Above the least exponent all 53 digits are there, also before the rounding. -/
theorem exists_rounded {m : ℕ} {e : ℤ} {accuracy : Accuracy} {v : ℚ}
    (hshow : Shows (.ofMantissaAndAccuracy m accuracy) v) (he : e ≤ targetExponent m e) :
    ∃ r : ℕ, roundWithAccuracy .binary64 .positive m e accuracy = ofRounded r (targetExponent m e) ∧ r ≤ 2 ^ 53 ∧
      |(r : ℚ) * 2 ^ targetExponent m e - v * 2 ^ e| ≤ 2 ^ targetExponent m e / 2 ∧
      (targetExponent m e = -1074 ∨ 2 ^ 52 ≤ r ∧ (2 : ℚ) ^ 52 * 2 ^ targetExponent m e ≤ v * 2 ^ e) := by
  obtain ⟨n, hn⟩ : ∃ n : ℕ, targetExponent m e = e + n := ⟨(targetExponent m e - e).toNat, by omega⟩
  have htarget := targetExponent_eq m e
  have hfirst : shiftToTargetExponent .binary64 m e accuracy =
      (ExtendedMantissa.ofMantissaAndAccuracy m accuracy >>> n, targetExponent m e) := by
    have hnat : (targetExponent m e - e).toNat = n := by omega
    show (ExtendedMantissa.ofMantissaAndAccuracy m accuracy >>> (targetExponent m e - e).toNat,
      e + (targetExponent m e - e).toNat) = _
    rw [hnat, ← hn]
  have hbounds := hshow.le
  rw [mantissa_ofMantissaAndAccuracy] at hbounds
  have hnear := (hshow.shift n).near
  generalize hr : (ExtendedMantissa.ofMantissaAndAccuracy m accuracy >>> n).roundedMantissa = r at hnear
  have hunit : (0 : ℚ) < 2 ^ n := by positivity
  -- What is rounded is `w` units of the target, with `w = v / 2^n`.
  obtain ⟨w, hw⟩ : ∃ w, w = v / 2 ^ n := ⟨_, rfl⟩
  rw [← hw] at hnear
  have hv : v = w * 2 ^ n := by rw [hw, div_mul_cancel₀ v hunit.ne']
  have hscale : v * 2 ^ e = w * 2 ^ targetExponent m e := by
    rw [hn, zpow_add₀ two_ne_zero, zpow_natCast, hv]
    ring
  have hpos : (0 : ℚ) < 2 ^ targetExponent m e := by positivity
  have hle : r ≤ 2 ^ 53 := by
    -- The mantissa has `n + 53` digits at most.
    have hdigits : m + 1 ≤ 2 ^ 53 * 2 ^ n := by
      rw [← pow_add]
      exact Nat.le_trans (Nat.lt_log2_self (n := m)) (Nat.pow_le_pow_right (by decide) (by omega))
    have hdigits' : (m : ℚ) + 1 ≤ 2 ^ 53 * 2 ^ n := by exact_mod_cast hdigits
    have hw_lt : w < 2 ^ 53 := by
      rw [hw, div_lt_iff₀ hunit]
      linarith
    have hlt : (r : ℚ) < 2 ^ 53 + 1 := by linarith [(abs_le.mp hnear).2]
    have hlt' : r < 2 ^ 53 + 1 := by exact_mod_cast hlt
    omega
  refine ⟨r, roundWithAccuracy_eq_ofRounded hfirst hr hle (by omega), hle, ?_, ?_⟩
  · rw [hscale, ← sub_mul, abs_mul, abs_of_pos hpos]
    nlinarith
  · by_cases hleast : targetExponent m e = -1074
    · exact .inl hleast
    · right
      -- Here the mantissa has `n + 53` digits exactly.
      have hm : m ≠ 0 := by
        rintro rfl
        rw [Nat.log2_zero] at htarget
        omega
      have hdigits : 2 ^ 52 * 2 ^ n ≤ m := by
        rw [← pow_add]
        refine Nat.le_trans (Nat.pow_le_pow_right (by decide) ?_) (Nat.log2_self_le hm)
        omega
      have hdigits' : (2 : ℚ) ^ 52 * 2 ^ n ≤ m := by exact_mod_cast hdigits
      have hw_ge : 2 ^ 52 ≤ w := by
        rw [hw, le_div_iff₀ hunit]
        linarith
      have hlt : (2 : ℚ) ^ 52 < r + 1 := by linarith [(abs_le.mp hnear).1]
      have hlt' : 2 ^ 52 < r + 1 := by exact_mod_cast hlt
      refine ⟨by omega, ?_⟩
      rw [hscale]
      exact mul_le_mul_of_nonneg_right hw_ge hpos.le

/-! ## Nearest -/

/-- No whole multiple of a unit is nearer to a number than one that is half a unit away at most. -/
theorem abs_sub_le_of_half {r k : ℕ} {unit v : ℚ} (hunit : 0 < unit) (hhalf : |r * unit - v| ≤ unit / 2) :
    |r * unit - v| ≤ |k * unit - v| := by
  rcases Nat.lt_trichotomy r k with hlt | rfl | hgt
  · have hstep : (r : ℚ) + 1 ≤ k := by exact_mod_cast hlt
    have hfar : unit / 2 ≤ k * unit - v := by nlinarith [(abs_le.mp hhalf).2, (abs_le.mp hhalf).1]
    exact le_trans hhalf (le_trans hfar (le_abs_self _))
  · exact le_refl _
  · have hstep : (k : ℚ) + 1 ≤ r := by exact_mod_cast hgt
    have hfar : unit / 2 ≤ -(k * unit - v) := by nlinarith [(abs_le.mp hhalf).2, (abs_le.mp hhalf).1]
    exact le_trans hhalf (le_trans hfar (neg_le_abs _))

/-- The numbers that have a double, apart from the sign, if there were no largest exponent. -/
def Dyadic (p : ℚ) : Prop := ∃ k : ℕ, ∃ j : ℤ, k ≤ 2 ^ 53 ∧ -1074 ≤ j ∧ p = k * 2 ^ j

theorem dyadic_natCast {n : ℕ} (h : n ≤ 2 ^ 53) : Dyadic n := ⟨n, 0, h, by decide, by rw [zpow_zero, mul_one]⟩

theorem dyadic_one : Dyadic 1 := by exact_mod_cast dyadic_natCast (n := 1) (by decide)

theorem dyadic_two_pow (k : ℕ) : Dyadic (2 ^ k) := ⟨1, k, by decide, by omega, by rw [zpow_natCast]; norm_num⟩

/-- Rounding gives a number nearest to the exact one. -/
theorem exists_nearest {m : ℕ} {e : ℤ} {accuracy : Accuracy} {v : ℚ}
    (hshow : Shows (.ofMantissaAndAccuracy m accuracy) v) (he : e ≤ targetExponent m e) :
    ∃ r : ℕ, ∃ t : ℤ, roundWithAccuracy .binary64 .positive m e accuracy = ofRounded r t ∧ r ≤ 2 ^ 53 ∧ -1074 ≤ t ∧
      (2 ^ 52 ≤ r ∨ t = -1074) ∧ ∀ p, Dyadic p → |(r : ℚ) * 2 ^ t - v * 2 ^ e| ≤ |p - v * 2 ^ e| := by
  obtain ⟨r, hround, hr, hhalf, hform⟩ := exists_rounded hshow he
  have hleast : -1074 ≤ targetExponent m e := by
    have := targetExponent_eq m e
    omega
  generalize targetExponent m e = t at *
  refine ⟨r, t, hround, hr, hleast, hform.symm.imp And.left id, ?_⟩
  have hpos : (0 : ℚ) < 2 ^ t := by positivity
  rintro p ⟨k, j, hk, hj, rfl⟩
  rcases le_or_gt t j with hge | hlt
  · -- A whole multiple of the unit.
    obtain ⟨n, rfl⟩ : ∃ n : ℕ, j = t + n := ⟨(j - t).toNat, by omega⟩
    have hmultiple : (k : ℚ) * 2 ^ (t + n : ℤ) = (k * 2 ^ n : ℕ) * 2 ^ t := by
      rw [zpow_add₀ two_ne_zero, zpow_natCast]
      push_cast
      ring
    rw [hmultiple]
    exact abs_sub_le_of_half hpos hhalf
  · -- Finer units reach up to `2^52` units of `2^t`, and the exact number is not below that.
    have habove : (2 : ℚ) ^ 52 * 2 ^ t ≤ v * 2 ^ e := (hform.resolve_left (by omega)).2
    have hfine : (k : ℚ) * 2 ^ j ≤ 2 ^ 52 * 2 ^ t := by
      have hk' : (k : ℚ) ≤ 2 ^ 53 := by exact_mod_cast hk
      calc (k : ℚ) * 2 ^ j ≤ 2 ^ 53 * 2 ^ (t - 1) :=
            mul_le_mul hk' (zpow_le_zpow_right₀ one_le_two (by omega)) (by positivity) (by positivity)
        _ = 2 ^ 52 * 2 ^ t := by
            rw [zpow_sub_one₀ two_ne_zero]
            ring
    have hedge := abs_sub_le_of_half (k := 2 ^ 52) hpos hhalf
    rw [Nat.cast_pow, Nat.cast_ofNat, abs_of_nonpos (sub_nonpos.mpr habove)] at hedge
    rw [abs_of_nonpos (sub_nonpos.mpr (hfine.trans habove))]
    linarith

end Failsafe
