import Failsafe.Proofs.Float.Rounding

/-!
# Operations on doubles round to the nearest

`quantity` is the number that a finite double stands for, and `Rounds x v` says that `x` is a double nearest to the
number `v`, or infinite if `v` is too large. The product, the sum and the quotient of doubles that are not negative
round the exact result (`rounds_mul`, `rounds_add`, `rounds_div`), and so does the double of a whole number
(`rounds_toFloat`).

The operations work on doubles that are taken apart, and put together what they have rounded. That nothing is lost
there, apart from numbers past the largest double, is `rounds_ofRounded`.

From nearest follows the rest: a number that has a double is not rounded (`Rounds.exact`), rounding keeps the order to
such numbers (`Rounds.le`, `Rounds.ge`), and it is half a unit off at most (`Rounds.error`).
-/

namespace Failsafe

open Float.Model Float.Model.UnpackedFloat

/-! ## Packing -/

theorem ofBitVec_unpackSign (sign : Sign) (exponent : BitVec 11) (fraction : BitVec 52) :
    Sign.ofBitVec (@unpackSign .binary64 (packComponents .binary64 sign exponent fraction)) = sign := by
  unfold unpackSign packComponents BitVec.extractLsb
  rw [BitVec.extractLsb'_append_eq_of_le (by decide), BitVec.extractLsb'_append_eq_of_le (by decide)]
  cases sign <;> rfl

theorem toNat_one_append (fraction : BitVec 52) : (1#1 ++ fraction).toNat = 2 ^ 52 + fraction.toNat := by
  rw [BitVec.toNat_append, ← Nat.shiftLeft_add_eq_or_of_lt fraction.isLt, Nat.shiftLeft_eq]
  rfl

/-- The exponent as it is stored. -/
def storedExponent (e : ℤ) : ℕ := (e + (1023 : ℕ) + (52 : ℕ)).toNat

theorem pack_finite (sign : Sign) (m : ℕ) (e : ℤ) (hm : 0 < m) :
    UnpackedFloat.pack .binary64 (.finite sign m e hm) =
      if 2 ^ 11 ≤ storedExponent e + 1 then packedInfinity .binary64 sign
      else if m.log2 + 1 = 53 then
        packComponents .binary64 sign (BitVec.ofNat 11 (storedExponent e)) (BitVec.ofNat 52 m)
      else packComponents .binary64 sign 0#11 (BitVec.ofNat 52 m) := rfl

theorem unpack_pack_overflow {sign : Sign} {m : ℕ} {e : ℤ} {hm : 0 < m} (h : 971 < e) :
    (Float.Model.pack (.finite sign m e hm)).unpack = .infinity sign := by
  show UnpackedFloat.unpack .binary64 (UnpackedFloat.pack .binary64 (.finite sign m e hm)) = _
  have hoverflow : 2 ^ 11 ≤ storedExponent e + 1 := by
    unfold storedExponent
    omega
  rw [pack_finite, if_pos hoverflow]
  cases sign <;> rfl

section

variable {sign : Sign} {m : ℕ} {e : ℤ} {hm : 0 < m}

theorem cast_storedExponent (hleast : -1074 ≤ e) : (storedExponent e : ℤ) = e + 1075 := by
  unfold storedExponent
  omega

/-- With all 53 digits, of which the first one is not stored. -/
theorem unpack_pack_normal (hfull : 2 ^ 52 ≤ m) (hbelow : m < 2 ^ 53) (hleast : -1074 ≤ e) (hlast : e ≤ 971) :
    (Float.Model.pack (.finite sign m e hm)).unpack = .finite sign m e hm := by
  have hstored := cast_storedExponent hleast
  have hlog : m.log2 + 1 = 53 := congrArg (· + 1) ((Nat.log2_eq_iff hm.ne').mpr ⟨hfull, hbelow⟩)
  have hexponent : (BitVec.ofNat 11 (storedExponent e)).toNat = storedExponent e := Nat.mod_eq_of_lt (by omega)
  have hmantissa : (1#1 ++ BitVec.ofNat 52 m).toNat = m := by
    rw [toNat_one_append, BitVec.toNat_ofNat]
    omega
  have hnone : BitVec.ofNat 11 (storedExponent e) ≠ -1#11 := by
    intro h
    have hlargest : storedExponent e = 2047 := hexponent.symm.trans (congrArg BitVec.toNat h)
    omega
  have hsome : BitVec.ofNat 11 (storedExponent e) ≠ 0#11 := by
    intro h
    have hzero : storedExponent e = 0 := hexponent.symm.trans (congrArg BitVec.toNat h)
    omega
  have hbias : (Format.binary64.exponentBias : ℤ) = 1023 := rfl
  show UnpackedFloat.unpack .binary64 (UnpackedFloat.pack .binary64 (.finite sign m e hm)) = _
  rw [pack_finite, if_neg (by omega), if_pos hlog]
  unfold UnpackedFloat.unpack
  simp only [unpackExponent_packComponents, unpackMantissa_packComponents, ofBitVec_unpackSign]
  rw [if_neg hnone, if_neg hsome]
  simp only [hexponent, hmantissa, hbias, UnpackedFloat.finite.injEq, true_and]
  omega

/-- With fewer digits, and the least exponent, which is stored as zero. -/
theorem unpack_pack_subnormal (hless : m < 2 ^ 52) :
    (Float.Model.pack (.finite sign m (-1074) hm)).unpack = .finite sign m (-1074) hm := by
  have hlog : ¬ m.log2 + 1 = 53 := by
    intro h
    have hdigits := Nat.log2_self_le hm.ne'
    rw [Nat.succ.inj h] at hdigits
    omega
  have hmantissa : (BitVec.ofNat 52 m).toNat = m := Nat.mod_eq_of_lt hless
  have hsome : BitVec.ofNat 52 m ≠ 0#52 := by
    intro h
    have hzero : m = 0 := hmantissa.symm.trans (congrArg BitVec.toNat h)
    omega
  show UnpackedFloat.unpack .binary64 (UnpackedFloat.pack .binary64 (.finite sign m (-1074) hm)) = _
  rw [pack_finite, if_neg (by decide), if_neg hlog]
  unfold UnpackedFloat.unpack
  simp only [unpackExponent_packComponents, unpackMantissa_packComponents, ofBitVec_unpackSign]
  rw [if_neg (by decide), if_pos trivial, dif_neg hsome]
  simp only [hmantissa]
  rfl

/-- A number in the form that doubles have comes back from its bits. -/
theorem unpack_pack_finite (hbelow : m < 2 ^ 53) (hleast : -1074 ≤ e) (hform : 2 ^ 52 ≤ m ∨ e = -1074)
    (hlast : e ≤ 971) : (Float.Model.pack (.finite sign m e hm)).unpack = .finite sign m e hm := by
  by_cases hfull : 2 ^ 52 ≤ m
  · exact unpack_pack_normal hfull hbelow hleast hlast
  · obtain rfl : e = -1074 := hform.resolve_left hfull
    exact unpack_pack_subnormal (Nat.not_le.mp hfull)

end

theorem unpack_pack_zero (sign : Sign) : (Float.Model.pack (.zero sign)).unpack = .zero sign := by
  cases sign <;> rfl

theorem unpack_pack_infinity (sign : Sign) : (Float.Model.pack (.infinity sign)).unpack = .infinity sign := by
  cases sign <;> rfl

theorem exponent_le {x : Float} {sign : Sign} {m : ℕ} {e : ℤ} {hm : 0 < m}
    (h : x.toModel.unpack = .finite sign m e hm) : e ≤ 971 := by
  obtain ⟨exponent, hexponent⟩ : ∃ b, @unpackExponent .binary64 x.toModel.toBits.toBitVec = b := ⟨_, rfl⟩
  have hbias : (Format.binary64.exponentBias : ℤ) = 1023 := rfl
  have hlt : exponent.toNat < 2 ^ 11 := exponent.isLt
  unfold Float.Model.unpack UnpackedFloat.unpack at h
  simp only [hexponent, hbias] at h
  by_cases hnone : exponent = -1#11
  · rw [if_pos hnone] at h
    split at h <;> simp at h
  · have hne : exponent.toNat ≠ 2047 := fun hlargest => hnone (BitVec.eq_of_toNat_eq hlargest)
    rw [if_neg hnone] at h
    by_cases hzero : exponent = 0#11
    · have hleast : exponent.toNat = 0 := congrArg BitVec.toNat hzero
      rw [if_pos hzero] at h
      split at h
      · simp at h
      · injection h
        omega
    · rw [if_neg hzero] at h
      injection h
      omega

/-! ## The number that a double stands for -/

/-- The number that a finite double stands for. -/
def quantity (x : Float) : ℚ := scaled x / 2 ^ 1074

theorem magnitude_eq {m : ℕ} {e : ℤ} (he : -1074 ≤ e) : (magnitude m e : ℚ) / 2 ^ 1074 = m * 2 ^ e := by
  obtain ⟨n, rfl⟩ : ∃ n : ℕ, e = -1074 + n := ⟨(e + 1074).toNat, by omega⟩
  have hnat : (-1074 + (n : ℤ) + 1074).toNat = n := by omega
  have hunit : (2 : ℚ) ^ (-1074 : ℤ) = (2 ^ 1074)⁻¹ := by rw [zpow_neg, ← zpow_natCast 2 1074, Nat.cast_ofNat]
  unfold magnitude
  rw [hnat, zpow_add₀ two_ne_zero, hunit, zpow_natCast, Nat.cast_mul, Nat.cast_pow, Nat.cast_ofNat]
  generalize (2 : ℚ) ^ 1074 = unit
  ring

theorem quantity_zero {x : Float} {sign : Sign} (h : x.toModel.unpack = .zero sign) : quantity x = 0 := by
  unfold quantity scaled
  rw [h]
  simp

theorem quantity_positive {x : Float} {m : ℕ} {e : ℤ} {hm : 0 < m}
    (h : x.toModel.unpack = .finite .positive m e hm) : quantity x = m * 2 ^ e := by
  rw [← magnitude_eq (unpack_finite h).2.1]
  unfold quantity scaled
  rw [h]
  rfl

theorem quantity_negative {x : Float} {m : ℕ} {e : ℤ} {hm : 0 < m}
    (h : x.toModel.unpack = .finite .negative m e hm) : quantity x < 0 := by
  have hpos := magnitude_pos e hm
  have hneg : scaled x < 0 := by
    unfold scaled
    rw [h]
    show -(magnitude m e : ℤ) < 0
    omega
  exact div_neg_of_neg_of_pos (by exact_mod_cast hneg) (by positivity)

theorem lt_iff_quantity {x y : Float} (hx : x.isFinite = true) (hy : y.isFinite = true) :
    x < y ↔ quantity x < quantity y := by
  rw [lt_iff_scaled hx hy, quantity, quantity, div_lt_div_iff_of_pos_right (by positivity)]
  norm_cast

theorem le_iff_quantity {x y : Float} (hx : x.isFinite = true) (hy : y.isFinite = true) :
    x ≤ y ↔ quantity x ≤ quantity y := by
  rw [le_iff_not_lt hx hy, lt_iff_quantity hy hx, not_lt]

/-- A finite double that is not negative is a zero or has the positive sign. -/
theorem unpack_of_nonneg {x : Float} (hx : x.isFinite = true) (h : 0 ≤ quantity x) :
    (∃ sign, x.toModel.unpack = .zero sign) ∨ ∃ m e hm, x.toModel.unpack = .finite .positive m e hm := by
  rw [isFinite_iff] at hx
  cases hu : x.toModel.unpack with
  | infinity sign => simp [hu, UnpackedFloat.isFinite] at hx
  | notANumber => simp [hu, UnpackedFloat.isFinite] at hx
  | zero sign => exact .inl ⟨sign, rfl⟩
  | finite sign m e hm =>
    cases sign with
    | positive => exact .inr ⟨m, e, hm, rfl⟩
    | negative => exact absurd (quantity_negative hu) (not_lt.mpr h)

/-- The number of a double that is not negative is among those that rounding chooses from. -/
theorem dyadic_quantity {x : Float} (hx : x.isFinite = true) (h : 0 ≤ quantity x) : Dyadic (quantity x) := by
  rcases unpack_of_nonneg hx h with ⟨sign, hu⟩ | ⟨m, e, hm, hu⟩
  · exact ⟨0, 0, by decide, by decide, by rw [quantity_zero hu]; simp⟩
  · obtain ⟨hbelow, hleast, -⟩ := unpack_finite hu
    exact ⟨m, e, hbelow.le, hleast, quantity_positive hu⟩

/-! ## Nearest doubles -/

/-- A double that is nearest to a number, or infinite where the number is not below the middle between the largest
double and the next power of two. -/
def Rounds (x : Float) (v : ℚ) : Prop :=
  (x.isFinite = true ∧ 0 ≤ quantity x ∧ ∀ p, Dyadic p → |quantity x - v| ≤ |p - v|) ∨
    (x.toModel.unpack = .infinity .positive ∧ (2 ^ 54 - 1) * 2 ^ 970 ≤ v)

theorem isFinite_of_unpack {x : Float} {u : UnpackedFloat} (h : x.toModel.unpack = u) (hu : u.isFinite = true) :
    x.isFinite = true := by
  rw [isFinite_iff, h, hu]

/-- Nothing is rounded. -/
theorem rounds_quantity {x : Float} (hx : x.isFinite = true) (h : 0 ≤ quantity x) : Rounds x (quantity x) := by
  refine .inl ⟨hx, h, fun p _ => ?_⟩
  rw [sub_self, abs_zero]
  exact abs_nonneg _

/-- Packing what a double was unpacked to gives its number again. -/
theorem rounds_repacked {x z : Float} (hx : x.isFinite = true) (h : 0 ≤ quantity x)
    (hz : z.toModel = Float.Model.pack x.toModel.unpack) : Rounds z (quantity x) := by
  have hunpack : z.toModel.unpack = x.toModel.unpack := by
    rw [hz]
    rcases unpack_of_nonneg hx h with ⟨sign, hu⟩ | ⟨m, e, hm, hu⟩
    · rw [hu, unpack_pack_zero]
    · obtain ⟨hbelow, hleast, hform⟩ := unpack_finite hu
      rw [hu, unpack_pack_finite hbelow hleast hform (exponent_le hu)]
  have hfinite : z.isFinite = true := by rwa [isFinite_iff, hunpack]
  have hsame : quantity z = quantity x := by
    unfold quantity scaled
    rw [hunpack]
  rw [← hsame] at h ⊢
  exact rounds_quantity hfinite h

theorem rounds_zero {x : Float} {sign : Sign} (h : x.toModel.unpack = .zero sign) : Rounds x 0 := by
  have hzero := quantity_zero h
  rw [← hzero]
  exact rounds_quantity (isFinite_of_unpack h rfl) hzero.ge

/-- What is rounded past the largest double was not below the middle. -/
theorem middle_le {a v : ℚ} (ha : (2 : ℚ) ^ 53 * 2 ^ (971 : ℤ) ≤ a) (hnear : ∀ p, Dyadic p → |a - v| ≤ |p - v|) :
    (2 ^ 54 - 1) * 2 ^ 970 ≤ v := by
  have hlargest := hnear ((2 ^ 53 - 1 : ℕ) * 2 ^ (971 : ℤ)) ⟨2 ^ 53 - 1, 971, by decide, by decide, rfl⟩
  have hcast : (((2 ^ 53 - 1 : ℕ)) : ℚ) = 2 ^ 53 - 1 := by norm_num
  have hunit : (2 : ℚ) ^ (971 : ℤ) = 2 * 2 ^ 970 := by
    rw [show (971 : ℤ) = 970 + 1 from rfl, zpow_add_one₀ two_ne_zero, mul_comm]
    rfl
  rw [hcast] at hlargest
  rw [hunit] at ha hlargest
  have hpos : (0 : ℚ) < 2 ^ 970 := by positivity
  generalize (2 : ℚ) ^ 970 = unit at *
  by_contra hlow
  have hleft := le_abs_self (a - v)
  rcases abs_cases ((2 ^ 53 - 1) * (2 * unit) - v) with ⟨habs, -⟩ | ⟨habs, -⟩
  · rw [habs] at hlargest
    linarith only [ha, hlargest, hleft, hpos]
  · rw [habs] at hlargest
    linarith only [ha, hlargest, hleft, hlow, hpos]

/-- A mantissa that was rounded to the nearest is packed to a nearest double. -/
theorem rounds_ofRounded {x : Float} {r : ℕ} {t : ℤ} {v : ℚ} (hx : x.toModel = Float.Model.pack (ofRounded r t))
    (hr : r ≤ 2 ^ 53) (hleast : -1074 ≤ t) (hform : 2 ^ 52 ≤ r ∨ t = -1074)
    (hnear : ∀ p, Dyadic p → |(r : ℚ) * 2 ^ t - v| ≤ |p - v|) : Rounds x v := by
  have hunpack : x.toModel.unpack = (Float.Model.pack (ofRounded r t)).unpack := by rw [hx]
  -- Wherever the double is finite, it stands for what was rounded.
  have hsame (hfinite : x.isFinite = true) (hq : quantity x = r * 2 ^ t) : Rounds x v := by
    rw [← hq] at hnear
    exact .inl ⟨hfinite, by rw [hq]; positivity, hnear⟩
  have hlarge (h : (2 : ℚ) ^ 53 * 2 ^ (971 : ℤ) ≤ r * 2 ^ t) (hinfinite : x.toModel.unpack = .infinity .positive) :
      Rounds x v := .inr ⟨hinfinite, middle_le h hnear⟩
  unfold ofRounded at hunpack
  by_cases hzero : r = 0
  · rw [dif_pos hzero, unpack_pack_zero] at hunpack
    refine hsame (isFinite_of_unpack hunpack rfl) ?_
    rw [quantity_zero hunpack, hzero]
    simp
  · rw [dif_neg hzero] at hunpack
    by_cases hlt : r < 2 ^ 53
    · rw [if_pos hlt] at hunpack
      by_cases hlast : t ≤ 971
      · rw [unpack_pack_finite hlt hleast hform hlast] at hunpack
        exact hsame (isFinite_of_unpack hunpack rfl) (quantity_positive hunpack)
      · rw [unpack_pack_overflow (by omega)] at hunpack
        refine hlarge ?_ hunpack
        have hr' : (2 : ℚ) ^ 52 ≤ r := by exact_mod_cast hform.resolve_right (by omega)
        calc (2 : ℚ) ^ 53 * 2 ^ (971 : ℤ) = 2 ^ 52 * 2 ^ (972 : ℤ) := by
              rw [show (972 : ℤ) = 971 + 1 from rfl, zpow_add_one₀ two_ne_zero]
              ring
          _ ≤ (r : ℚ) * 2 ^ t :=
            mul_le_mul hr' (zpow_le_zpow_right₀ one_le_two (by omega)) (by positivity) (by positivity)
    · -- The carry leaves one digit, a place higher.
      obtain rfl : r = 2 ^ 53 := by omega
      rw [if_neg hlt] at hunpack
      by_cases hlast : t ≤ 970
      · rw [unpack_pack_finite (by decide) (by omega) (.inl (by decide)) (by omega)] at hunpack
        refine hsame (isFinite_of_unpack hunpack rfl) ?_
        rw [quantity_positive hunpack, zpow_add_one₀ two_ne_zero, Nat.cast_pow, Nat.cast_pow, Nat.cast_ofNat]
        ring
      · rw [unpack_pack_overflow (by omega)] at hunpack
        refine hlarge ?_ hunpack
        rw [Nat.cast_pow, Nat.cast_ofNat]
        exact mul_le_mul_of_nonneg_left (zpow_le_zpow_right₀ one_le_two (by omega)) (by positivity)

/-- Rounding with the accuracy that is known gives a nearest double. -/
theorem rounds_roundWithAccuracy {x : Float} {m : ℕ} {e : ℤ} {accuracy : Accuracy} {v : ℚ}
    (hx : x.toModel = Float.Model.pack (roundWithAccuracy .binary64 .positive m e accuracy))
    (hshow : Shows (.ofMantissaAndAccuracy m accuracy) v) (he : e ≤ targetExponent m e) : Rounds x (v * 2 ^ e) := by
  obtain ⟨r, t, hround, hr, hleast, hform, hnear⟩ := exists_nearest hshow he
  rw [hround] at hx
  exact rounds_ofRounded hx hr hleast hform hnear

theorem log2_shiftLeft {m : ℕ} (hm : m ≠ 0) (n : ℕ) : (m <<< n).log2 = m.log2 + n := by
  have hnext : m.log2 + n + 1 = (m.log2 + 1) + n := by omega
  rw [Nat.shiftLeft_eq, Nat.log2_eq_iff (by positivity), hnext, pow_add, pow_add]
  exact ⟨Nat.mul_le_mul_right _ (Nat.log2_self_le hm), Nat.mul_lt_mul_of_pos_right Nat.lt_log2_self (by positivity)⟩

theorem shiftLeft_mul_zpow (m n : ℕ) (e : ℤ) : ((m <<< n : ℕ) : ℚ) * 2 ^ (e - n) = m * 2 ^ e := by
  rw [Nat.shiftLeft_eq, zpow_sub₀ two_ne_zero, zpow_natCast]
  push_cast
  field_simp

/-- Rounding a whole mantissa, with any exponent. -/
theorem rounds_round {x : Float} {m : ℕ} {e : ℤ} (hm : m ≠ 0)
    (hx : x.toModel = Float.Model.pack (round .binary64 .positive m e)) : Rounds x (m * 2 ^ e) := by
  obtain ⟨n, hn⟩ : ∃ n : ℕ, (e - targetExponent m e).toNat = n := ⟨_, rfl⟩
  have hround : round .binary64 .positive m e = roundWithAccuracy .binary64 .positive (m <<< n) (e - n) .exact := by
    rw [← hn]
    rfl
  rw [hround] at hx
  rw [← shiftLeft_mul_zpow m n e]
  refine rounds_roundWithAccuracy hx (shows_exact _) ?_
  have htarget := targetExponent_eq m e
  rw [targetExponent_eq, log2_shiftLeft hm]
  omega

/-! ## Operations -/

/-- The targetExponent is no lower when there are 53 digits, and neither when the exponent is the least. -/
theorem le_targetExponent {m : ℕ} {e : ℤ} (h : 2 ^ 52 ≤ m ∨ e ≤ -1074) : e ≤ targetExponent m e := by
  rw [targetExponent_eq]
  rcases h with hdigits | hleast
  · have hlog := (Nat.le_log2 (by omega)).mpr hdigits
    omega
  · omega

theorem rounds_mul {x y : Float} (hx : x.isFinite = true) (hx0 : 0 ≤ quantity x) (hy : y.isFinite = true)
    (hy0 : 0 ≤ quantity y) : Rounds (x * y) (quantity x * quantity y) := by
  have hmul : (x * y).toModel = Float.Model.pack (UnpackedFloat.mul .binary64 x.toModel.unpack y.toModel.unpack) := rfl
  -- A product with a zero is a zero.
  have hzero (sign : Sign) (h : UnpackedFloat.mul .binary64 x.toModel.unpack y.toModel.unpack = .zero sign) :
      Rounds (x * y) 0 := rounds_zero (by rw [hmul, h]; exact unpack_pack_zero sign)
  rcases unpack_of_nonneg hx hx0 with ⟨sign, hu⟩ | ⟨m, e, hm, hu⟩
  · rw [quantity_zero hu, zero_mul]
    rcases unpack_of_nonneg hy hy0 with ⟨sign', hu'⟩ | ⟨m', e', hm', hu'⟩
    · exact hzero (sign * sign') (by rw [hu, hu']; rfl)
    · exact hzero (sign * .positive) (by rw [hu, hu']; rfl)
  · rcases unpack_of_nonneg hy hy0 with ⟨sign', hu'⟩ | ⟨m', e', hm', hu'⟩
    · rw [quantity_zero hu', mul_zero]
      exact hzero (.positive * sign') (by rw [hu, hu']; rfl)
    · obtain ⟨-, -, hform⟩ := unpack_finite hu
      obtain ⟨-, -, hform'⟩ := unpack_finite hu'
      have hproduct : quantity x * quantity y = (m * m' : ℕ) * 2 ^ (e + e') := by
        rw [quantity_positive hu, quantity_positive hu', zpow_add₀ two_ne_zero]
        push_cast
        ring
      rw [hu, hu'] at hmul
      rw [hproduct]
      refine rounds_roundWithAccuracy hmul (shows_exact _) (le_targetExponent ?_)
      rcases hform with hdigits | hleast
      · exact .inl (Nat.le_trans hdigits (Nat.le_mul_of_pos_right m hm'))
      · rcases hform' with hdigits' | hleast'
        · exact .inl (Nat.le_trans hdigits' (Nat.le_mul_of_pos_left m' hm))
        · exact .inr (by omega)

theorem add_zero_zero (format : Format) (sign sign' : Sign) :
    ∃ s, UnpackedFloat.add format (.zero sign) (.zero sign') = .zero s := by
  unfold UnpackedFloat.add
  dsimp only
  split
  · exact ⟨sign, rfl⟩
  · exact ⟨.positive, rfl⟩

theorem add_finite_finite {m m' : ℕ} {e e' : ℤ} (hm : 0 < m) (hm' : 0 < m') :
    UnpackedFloat.add .binary64 (.finite .positive m e hm) (.finite .positive m' e' hm') =
      round .binary64 .positive (m <<< (e - min e e').toNat + m' <<< (e' - min e e').toNat) (min e e') := by
  have hsum : 0 < m <<< (e - min e e').toNat + m' <<< (e' - min e e').toNat := by
    rw [Nat.shiftLeft_eq, Nat.shiftLeft_eq]
    positivity
  show normalize .binary64
    ((m <<< (e - min e e').toNat : ℕ) + (m' <<< (e' - min e e').toNat : ℕ) : ℤ) (min e e') .positive = _
  rw [← Nat.cast_add]
  generalize m <<< (e - min e e').toNat + m' <<< (e' - min e e').toNat = sum at *
  unfold UnpackedFloat.normalize
  rw [Int.compare_eq_gt.mpr (by exact_mod_cast hsum)]
  rfl

theorem rounds_add {x y : Float} (hx : x.isFinite = true) (hx0 : 0 ≤ quantity x) (hy : y.isFinite = true)
    (hy0 : 0 ≤ quantity y) : Rounds (x + y) (quantity x + quantity y) := by
  have hadd : (x + y).toModel = Float.Model.pack (UnpackedFloat.add .binary64 x.toModel.unpack y.toModel.unpack) := rfl
  rcases unpack_of_nonneg hx hx0 with ⟨sign, hu⟩ | ⟨m, e, hm, hu⟩
  · rw [quantity_zero hu, zero_add]
    rcases unpack_of_nonneg hy hy0 with ⟨sign', hu'⟩ | ⟨m', e', hm', hu'⟩
    · obtain ⟨s, hs⟩ := add_zero_zero .binary64 sign sign'
      rw [hu, hu', hs] at hadd
      rw [quantity_zero hu']
      exact rounds_zero (by rw [hadd]; exact unpack_pack_zero s)
    · refine rounds_repacked hy hy0 ?_
      rw [hadd, hu, hu']
      rfl
  · rcases unpack_of_nonneg hy hy0 with ⟨sign', hu'⟩ | ⟨m', e', hm', hu'⟩
    · rw [quantity_zero hu', add_zero]
      refine rounds_repacked hx hx0 ?_
      rw [hadd, hu, hu']
      rfl
    · rw [hu, hu', add_finite_finite hm hm'] at hadd
      obtain ⟨n, hn⟩ : ∃ n : ℕ, e = min e e' + n := ⟨(e - min e e').toNat, by omega⟩
      obtain ⟨n', hn'⟩ : ∃ n' : ℕ, e' = min e e' + n' := ⟨(e' - min e e').toNat, by omega⟩
      have hnat : (e - min e e').toNat = n := by omega
      have hnat' : (e' - min e e').toNat = n' := by omega
      have hsum : quantity x + quantity y = (m <<< n + m' <<< n' : ℕ) * 2 ^ min e e' := by
        rw [quantity_positive hu, quantity_positive hu', ← shiftLeft_mul_zpow m n e, ← shiftLeft_mul_zpow m' n' e',
          show e - n = min e e' by omega, show e' - n' = min e e' by omega]
        push_cast
        ring
      rw [hnat, hnat'] at hadd
      rw [hsum]
      refine rounds_round ?_ hadd
      rw [Nat.shiftLeft_eq, Nat.shiftLeft_eq]
      positivity

/-- A quotient is computed to 53 digits or more, unless the exponent is the least or lower. -/
theorem le_targetExponent_divCore {m m' : ℕ} {e e' t : ℤ} (hm : 0 < m) (hm' : 0 < m')
    (ht : t = min (e - e') (Format.binary64.targetExponent (totalExponent m e - totalExponent m' e'))) :
    t ≤ targetExponent ((m <<< (e - e' - t).toNat) / m') t := by
  have htarget : Format.binary64.targetExponent (totalExponent m e - totalExponent m' e') =
      max (m.log2 + e - m'.log2 - e' - 53) (-1074) := by
    show max ((m.log2 : ℤ) + 1 + e - (m'.log2 + 1 + e') - (1 + 52 : ℕ)) (3 - 2 ^ (11 - 1) - (1 + 52 : ℕ)) = _
    congr 1
    omega
  rw [htarget] at ht
  apply le_targetExponent
  by_cases hleast : t ≤ -1074
  · exact .inr hleast
  · left
    generalize hn : (e - e' - t).toNat = n
    rw [Nat.le_div_iff_mul_le hm', Nat.shiftLeft_eq]
    calc 2 ^ 52 * m' ≤ 2 ^ 52 * 2 ^ (m'.log2 + 1) := Nat.mul_le_mul_left _ Nat.lt_log2_self.le
      _ = 2 ^ (52 + (m'.log2 + 1)) := (pow_add 2 _ _).symm
      _ ≤ 2 ^ (m.log2 + n) := Nat.pow_le_pow_right (by decide) (by omega)
      _ = 2 ^ m.log2 * 2 ^ n := pow_add 2 _ _
      _ ≤ m * 2 ^ n := Nat.mul_le_mul_right _ (Nat.log2_self_le hm.ne')

theorem rounds_div {x y : Float} (hx : x.isFinite = true) (hx0 : 0 ≤ quantity x) (hy : y.isFinite = true)
    (hy0 : 0 < quantity y) : Rounds (x / y) (quantity x / quantity y) := by
  have hdiv : (x / y).toModel = Float.Model.pack (UnpackedFloat.div .binary64 x.toModel.unpack y.toModel.unpack) := rfl
  rcases unpack_of_nonneg hy hy0.le with ⟨sign', hu'⟩ | ⟨m', e', hm', hu'⟩
  · exact absurd (quantity_zero hu') hy0.ne'
  · rcases unpack_of_nonneg hx hx0 with ⟨sign, hu⟩ | ⟨m, e, hm, hu⟩
    · rw [hu, hu'] at hdiv
      rw [quantity_zero hu, zero_div]
      exact rounds_zero (show _ = UnpackedFloat.zero (sign / .positive) by rw [hdiv]; exact unpack_pack_zero _)
    · rw [hu, hu'] at hdiv
      obtain ⟨t, ht⟩ : ∃ t, t = min (e - e')
          (Format.binary64.targetExponent (totalExponent m e - totalExponent m' e')) := ⟨_, rfl⟩
      obtain ⟨n, hn⟩ : ∃ n : ℕ, (e - e' - t).toNat = n := ⟨_, rfl⟩
      have hround : UnpackedFloat.div .binary64 (.finite .positive m e hm) (.finite .positive m' e' hm') =
          roundWithAccuracy .binary64 .positive (m <<< n / m') t (accuracyOfFraction (m <<< n % m') m') := by
        rw [← hn, ht]
        rfl
      have hquotient : quantity x / quantity y = ((m <<< n : ℕ) : ℚ) / m' * 2 ^ t := by
        have hexponent : t = e - n - e' := by omega
        rw [quantity_positive hu, quantity_positive hu', hexponent, zpow_sub₀ two_ne_zero, ← shiftLeft_mul_zpow m n e]
        field_simp
      have htarget := le_targetExponent_divCore hm hm' ht
      rw [hn] at htarget
      rw [hround] at hdiv
      rw [hquotient]
      exact rounds_roundWithAccuracy hdiv (shows_fraction _ hm') htarget

theorem rounds_toFloat (n : UInt64) : Rounds n.toFloat n.toNat := by
  have hmodel : n.toFloat.toModel = Float.Model.pack (normalize .binary64 (n.toNat : ℤ) 0 .positive) := rfl
  generalize n.toNat = k at *
  by_cases hzero : k = 0
  · subst hzero
    exact rounds_zero (show _ = UnpackedFloat.zero .positive by rw [hmodel]; rfl)
  · have hround : normalize .binary64 (k : ℤ) 0 .positive = round .binary64 .positive k 0 := by
      unfold UnpackedFloat.normalize
      rw [Int.compare_eq_gt.mpr (by omega)]
      rfl
    rw [hround] at hmodel
    have hrounds := rounds_round hzero hmodel
    rwa [zpow_zero, mul_one] at hrounds

/-! ## What nearest means -/

theorem lt_two_pow_of_le {v : ℚ} (h : v ≤ 2 ^ 65) : v < 2 ^ 970 :=
  lt_of_le_of_lt h (pow_lt_pow_right₀ one_lt_two (by decide))

namespace Rounds

variable {x : Float} {v p : ℚ}

/-- Far from the largest double nothing becomes infinite. -/
theorem finite (h : Rounds x v) (hv : v < 2 ^ 970) : x.isFinite = true ∧ 0 ≤ quantity x := by
  rcases h with ⟨hfinite, hnonneg, -⟩ | ⟨-, hmiddle⟩
  · exact ⟨hfinite, hnonneg⟩
  · have hpos : (0 : ℚ) < 2 ^ 970 := by positivity
    generalize (2 : ℚ) ^ 970 = unit at *
    linarith

theorem near (h : Rounds x v) (hx : x.isFinite = true) (hp : Dyadic p) : |quantity x - v| ≤ |p - v| := by
  rcases h with ⟨-, -, hnear⟩ | ⟨hinfinite, -⟩
  · exact hnear p hp
  · rw [isFinite_iff, hinfinite] at hx
    cases hx

/-- A number that has a double is not rounded. -/
theorem exact (h : Rounds x v) (hx : x.isFinite = true) (hv : Dyadic v) : quantity x = v := by
  have hnear := h.near hx hv
  rw [sub_self, abs_zero] at hnear
  exact sub_eq_zero.mp (abs_nonpos_iff.mp hnear)

/-- Rounding keeps the order to the numbers that have a double, from below. -/
theorem le (h : Rounds x v) (hx : x.isFinite = true) (hp : Dyadic p) (hle : p ≤ v) : p ≤ quantity x := by
  have hnear := h.near hx hp
  rw [abs_of_nonpos (sub_nonpos.mpr hle)] at hnear
  linarith [(abs_le.mp hnear).1]

/-- Rounding keeps the order to the numbers that have a double, from above. -/
theorem ge (h : Rounds x v) (hx : x.isFinite = true) (hp : Dyadic p) (hle : v ≤ p) : quantity x ≤ p := by
  have hnear := h.near hx hp
  rw [abs_of_nonneg (sub_nonneg.mpr hle)] at hnear
  linarith [(abs_le.mp hnear).2]

/-- Below `2^53` units rounding is off by half a unit at most. -/
theorem error {j : ℤ} (h : Rounds x v) (hx : x.isFinite = true) (hleast : -1074 ≤ j) (hnonneg : 0 ≤ v)
    (hle : v ≤ 2 ^ 53 * 2 ^ j) : |quantity x - v| ≤ 2 ^ j / 2 := by
  have hunit : (0 : ℚ) < 2 ^ j := by positivity
  obtain ⟨w, rfl⟩ : ∃ w, v = w * 2 ^ j := ⟨v / 2 ^ j, (div_mul_cancel₀ v hunit.ne').symm⟩
  have hw : 0 ≤ w := nonneg_of_mul_nonneg_left hnonneg hunit
  have hw' : w ≤ 2 ^ 53 := le_of_mul_le_mul_right hle hunit
  -- The whole number of units nearest to `w`.
  obtain ⟨k, hk, hhalf⟩ : ∃ k : ℕ, k ≤ 2 ^ 53 ∧ |(k : ℚ) - w| ≤ 1 / 2 := by
    have hfloor := Nat.floor_le (show 0 ≤ w + 1 / 2 by linarith)
    have hnext := Nat.lt_floor_add_one (w + 1 / 2)
    have hlt : (⌊w + 1 / 2⌋₊ : ℚ) < 2 ^ 53 + 1 := by linarith
    have hlt' : ⌊w + 1 / 2⌋₊ < 2 ^ 53 + 1 := by exact_mod_cast hlt
    exact ⟨⌊w + 1 / 2⌋₊, by omega, abs_le.mpr ⟨by linarith, by linarith⟩⟩
  refine (h.near hx ⟨k, j, hk, hleast, rfl⟩).trans ?_
  rw [← sub_mul, abs_mul, abs_of_pos hunit]
  nlinarith

end Rounds

/-- A double from `2^52` units on is a whole number of units. -/
theorem exists_multiple {x : Float} {j : ℤ} (hx : x.isFinite = true) (h : 2 ^ 52 * 2 ^ j ≤ quantity x) :
    ∃ k : ℕ, quantity x = k * 2 ^ j := by
  have hunit : (0 : ℚ) < 2 ^ j := by positivity
  rcases unpack_of_nonneg hx (le_trans (by positivity) h) with ⟨sign, hu⟩ | ⟨m, e, hm, hu⟩
  · rw [quantity_zero hu] at h
    linarith
  · obtain ⟨hbelow, -, -⟩ := unpack_finite hu
    rw [quantity_positive hu] at h ⊢
    have hle : j ≤ e := by
      by_contra hlt
      have hbelow' : (m : ℚ) < 2 ^ 53 := by exact_mod_cast hbelow
      have hlow : (m : ℚ) * 2 ^ e < 2 ^ 52 * 2 ^ j :=
        calc (m : ℚ) * 2 ^ e < 2 ^ 53 * 2 ^ e := mul_lt_mul_of_pos_right hbelow' (by positivity)
          _ ≤ 2 ^ 53 * 2 ^ (j - 1) :=
            mul_le_mul_of_nonneg_left (zpow_le_zpow_right₀ one_le_two (by omega)) (by positivity)
          _ = 2 ^ 52 * 2 ^ j := by
            rw [zpow_sub_one₀ two_ne_zero]
            ring
      exact absurd h (not_le.mpr hlow)
    obtain ⟨n, rfl⟩ : ∃ n : ℕ, e = j + n := ⟨(e - j).toNat, by omega⟩
    refine ⟨m * 2 ^ n, ?_⟩
    rw [zpow_add₀ two_ne_zero, zpow_natCast]
    push_cast
    ring

end Failsafe
