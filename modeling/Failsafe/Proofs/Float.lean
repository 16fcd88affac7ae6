import Mathlib

/-!
# The order of doubles

A finite double is a whole multiple of the smallest positive one, `2^-1074`. Counting in these units
(`scaled`) turns comparisons of finite doubles into comparisons of integers, `lt_iff_scaled`, where they can be
chained.

The comparison itself looks at exponents first and at mantissas only when these are equal. That this is the
order of the values rests on the form that doubles have when they are taken apart (`unpack_finite`): the
mantissa has 53 binary digits exactly, unless the exponent is the least.
-/

namespace Failsafe

open Float.Model Float.Model.UnpackedFloat

theorem lt_iff_compare (x y : Float) : x < y ↔ x.toModel.unpack.compare y.toModel.unpack = some .lt := by
  show (decide (x.toModel.unpack.lt y.toModel.unpack = true)) = true ↔ _
  rw [decide_eq_true_iff]
  unfold UnpackedFloat.lt
  exact beq_iff_eq

theorem isFinite_iff (x : Float) : x.isFinite = x.toModel.unpack.isFinite := rfl

/-- How a finite double comes apart: a mantissa below `2^53` and an exponent from `-1074` on, and all 53 digits
of the mantissa are needed unless the exponent is the least. -/
theorem unpack_finite {x : Float} {sign : Sign} {m : Nat} {e : Int} {hm : 0 < m}
    (h : x.toModel.unpack = .finite sign m e hm) : m < 2 ^ 53 ∧ -1074 ≤ e ∧ (2 ^ 52 ≤ m ∨ e = -1074) := by
  have hfraction : (@unpackMantissa .binary64 x.toModel.toBits.toBitVec).toNat < 2 ^ 52 := BitVec.isLt _
  have hvalue : (1#1 ++ @unpackMantissa .binary64 x.toModel.toBits.toBitVec).toNat =
      2 ^ 52 + (@unpackMantissa .binary64 x.toModel.toBits.toBitVec).toNat := by
    rw [BitVec.toNat_append, ← Nat.shiftLeft_add_eq_or_of_lt hfraction, Nat.shiftLeft_eq]
    rfl
  have hbias : (Format.binary64.exponentBias : Int) = 1023 := rfl
  unfold Float.Model.unpack UnpackedFloat.unpack at h
  dsimp only at h
  rw [hbias] at h
  split at h
  · split at h <;> exact absurd h (by simp)
  · split at h
    · next hzero =>
      -- The exponent is the least, and no digit is added to the fraction.
      split at h
      · exact absurd h (by simp)
      · injection h with _ hmantissa hexponent
        have hleast : (@unpackExponent .binary64 x.toModel.toBits.toBitVec).toNat = 0 := by
          rw [hzero]
          rfl
        omega
    · next hnonzero =>
      have hpositive : (@unpackExponent .binary64 x.toModel.toBits.toBitVec).toNat ≠ 0 :=
        fun hzero => hnonzero (BitVec.eq_of_toNat_eq hzero)
      injection h with _ hmantissa hexponent
      omega

/-- What a mantissa and an exponent stand for, counted in units of the smallest positive double. -/
def magnitude (m : Nat) (e : Int) : Nat := m * 2 ^ (e + 1074).toNat

/-- A finite double, counted in units of the smallest positive one. -/
def scaled (x : Float) : Int :=
  match x.toModel.unpack with
  | .finite sign m e _ => sign.apply (magnitude m e)
  | _ => 0

theorem magnitude_pos {m : Nat} (e : Int) (hm : 0 < m) : 0 < magnitude m e :=
  Nat.mul_pos hm (Nat.two_pow_pos _)

/-- Of two mantissas in this form, the one with the larger exponent stands for more. -/
theorem magnitude_lt {m m' : Nat} {e e' : Int} (hm : m < 2 ^ 53) (he : -1074 ≤ e) (hlt : e < e')
    (hm' : 2 ^ 52 ≤ m' ∨ e' = -1074) : magnitude m e < magnitude m' e' := by
  have hm' : 2 ^ 52 ≤ m' := hm'.resolve_right (by omega)
  obtain ⟨k, hk⟩ : ∃ k, (e' + 1074).toNat = (e + 1074).toNat + 1 + k :=
    ⟨(e' + 1074).toNat - (e + 1074).toNat - 1, by omega⟩
  unfold magnitude
  calc m * 2 ^ (e + 1074).toNat < 2 ^ 53 * 2 ^ (e + 1074).toNat :=
        Nat.mul_lt_mul_of_pos_right hm (Nat.two_pow_pos _)
    _ = 2 ^ 52 * 2 ^ ((e + 1074).toNat + 1) := by ring
    _ ≤ 2 ^ 52 * 2 ^ ((e + 1074).toNat + 1 + k) :=
        Nat.mul_le_mul_left _ (Nat.pow_le_pow_right (by decide) (Nat.le_add_right _ _))
    _ ≤ m' * 2 ^ (e' + 1074).toNat := by
        rw [hk]
        exact Nat.mul_le_mul_right _ hm'

/-- Comparing exponents first, and mantissas when these are equal, compares the values. -/
theorem compare_eq_lt_iff {m m' : Nat} {e e' : Int} (hm : m < 2 ^ 53) (he : -1074 ≤ e)
    (hform : 2 ^ 52 ≤ m ∨ e = -1074) (hm' : m' < 2 ^ 53) (he' : -1074 ≤ e') (hform' : 2 ^ 52 ≤ m' ∨ e' = -1074) :
    (compare e e').then (compare m m') = .lt ↔ magnitude m e < magnitude m' e' := by
  rcases lt_trichotomy e e' with hlt | rfl | hgt
  · rw [Int.compare_eq_lt.mpr hlt]
    exact iff_of_true rfl (magnitude_lt hm he hlt hform')
  · rw [Int.compare_eq_eq.mpr rfl]
    unfold magnitude
    rw [Nat.mul_lt_mul_right (Nat.two_pow_pos _)]
    exact Nat.compare_eq_lt
  · rw [Int.compare_eq_gt.mpr hgt]
    exact iff_of_false (by simp) (magnitude_lt hm' he' hgt hform).not_gt

/-- Finite doubles are in the order of the integers that count them. -/
theorem lt_iff_scaled {x y : Float} (hx : x.isFinite = true) (hy : y.isFinite = true) :
    x < y ↔ scaled x < scaled y := by
  rw [lt_iff_compare]
  rw [isFinite_iff] at hx hy
  unfold scaled
  cases hxu : x.toModel.unpack with
  | infinity _ => simp [hxu, UnpackedFloat.isFinite] at hx
  | notANumber => simp [hxu, UnpackedFloat.isFinite] at hx
  | zero sx =>
    cases hyu : y.toModel.unpack with
    | infinity _ => simp [hyu, UnpackedFloat.isFinite] at hy
    | notANumber => simp [hyu, UnpackedFloat.isFinite] at hy
    | zero sy => simp [UnpackedFloat.compare]
    | finite sy m' e' hm' =>
      have hy := magnitude_pos e' hm'
      cases sy with
      | negative => exact iff_of_false (by simp [UnpackedFloat.compare]) (by simp [Sign.apply])
      | positive => exact iff_of_true rfl (by simp only [Sign.apply]; omega)
  | finite sx m e hm =>
    obtain ⟨hbelow, hleast, hform⟩ := unpack_finite hxu
    have hx := magnitude_pos e hm
    cases hyu : y.toModel.unpack with
    | infinity _ => simp [hyu, UnpackedFloat.isFinite] at hy
    | notANumber => simp [hyu, UnpackedFloat.isFinite] at hy
    | zero sy =>
      cases sx with
      | negative => exact iff_of_true rfl (by simp only [Sign.apply]; omega)
      | positive => exact iff_of_false (by simp [UnpackedFloat.compare]) (by simp [Sign.apply])
    | finite sy m' e' hm' =>
      obtain ⟨hbelow', hleast', hform'⟩ := unpack_finite hyu
      have hy := magnitude_pos e' hm'
      cases sx with
      | negative =>
        cases sy with
        | negative =>
          have hswap : ((compare e e').then (compare m m')).swap = (compare e' e).then (compare m' m) := by
            rw [Ordering.swap_then, Int.compare_swap, Nat.compare_swap]
          simp only [UnpackedFloat.compare, Sign.apply, hswap, Option.some.injEq]
          rw [compare_eq_lt_iff hbelow' hleast' hform' hbelow hleast hform]
          omega
        | positive =>
          exact iff_of_true rfl (by simp only [Sign.apply]; omega)
      | positive =>
        cases sy with
        | negative =>
          exact iff_of_false (by simp [UnpackedFloat.compare]) (by simp only [Sign.apply]; omega)
        | positive =>
          simp only [UnpackedFloat.compare, Sign.apply, Option.some.injEq]
          rw [compare_eq_lt_iff hbelow hleast hform hbelow' hleast' hform']
          exact Int.ofNat_lt.symm

/-! ## The other order -/

theorem compare_swap (a b : UnpackedFloat) : b.compare a = (a.compare b).map Ordering.swap := by
  cases a with
  | notANumber => cases b <;> rfl
  | infinity s =>
    cases b with
    | infinity s' => cases s <;> cases s' <;> rfl
    | _ => cases s <;> rfl
  | zero s =>
    cases b with
    | infinity s' => cases s' <;> rfl
    | finite s' => cases s' <;> rfl
    | _ => rfl
  | finite s m e hm =>
    cases b with
    | notANumber => rfl
    | infinity s' => cases s' <;> rfl
    | zero s' => cases s <;> rfl
    | finite s' m' e' hm' =>
      have hswap : (compare e' e).then (compare m' m) = ((compare e e').then (compare m m')).swap := by
        rw [Ordering.swap_then, Int.compare_swap, Nat.compare_swap]
      cases s <;> cases s' <;> simp [UnpackedFloat.compare, hswap]

/-- Finite doubles can be compared. -/
theorem compare_eq_some {a b : UnpackedFloat} (ha : a.isFinite = true) (hb : b.isFinite = true) :
    ∃ o, a.compare b = some o := by
  cases a with
  | notANumber => simp [UnpackedFloat.isFinite] at ha
  | infinity s => simp [UnpackedFloat.isFinite] at ha
  | zero s =>
    cases b with
    | notANumber => simp [UnpackedFloat.isFinite] at hb
    | infinity s' => simp [UnpackedFloat.isFinite] at hb
    | zero s' => exact ⟨_, rfl⟩
    | finite s' => cases s' <;> exact ⟨_, rfl⟩
  | finite s m e hm =>
    cases b with
    | notANumber => simp [UnpackedFloat.isFinite] at hb
    | infinity s' => simp [UnpackedFloat.isFinite] at hb
    | zero s' => cases s <;> exact ⟨_, rfl⟩
    | finite s' m' e' hm' => cases s <;> cases s' <;> exact ⟨_, rfl⟩

theorem le_iff_not_lt {x y : Float} (hx : x.isFinite = true) (hy : y.isFinite = true) :
    x ≤ y ↔ ¬ y < x := by
  rw [isFinite_iff] at hx hy
  obtain ⟨o, ho⟩ := compare_eq_some hx hy
  have hle : x ≤ y ↔ o.isLE = true := by
    show decide (x.toModel.unpack.le y.toModel.unpack = true) = true ↔ _
    rw [decide_eq_true_iff]
    unfold UnpackedFloat.le
    rw [ho]
    rfl
  rw [hle, lt_iff_compare, compare_swap, ho]
  cases o <;> simp

theorem le_iff_scaled {x y : Float} (hx : x.isFinite = true) (hy : y.isFinite = true) :
    x ≤ y ↔ scaled x ≤ scaled y := by
  rw [le_iff_not_lt hx hy, lt_iff_scaled hy hx]
  omega

end Failsafe
