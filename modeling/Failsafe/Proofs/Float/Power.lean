import Failsafe.Duration.Seconds
import Failsafe.Proofs.Float.Nearest

/-!
# Powers and ceilings of doubles

Multiplying doubles from 1 on never gives anything smaller, and it never gives something that is no number: what is too
large becomes infinite (`AtLeast`). So a power of a double from 1 on is at least 1 or infinite (`atLeast_power`), and a
power of two is exact as long as it is finite (`rounds_power_two`). Both go by the digits of the exponent, as
`powerFrom` does.

`lesser` with a finite ceiling then is the ceiling from the ceiling on, also when what it cuts is infinite.
-/

namespace Failsafe

open Float.Model Float.Model.UnpackedFloat

/-! ## Doubles from a number on -/

/-- A double that is no less than a number; it may be infinite. -/
def AtLeast (p : ℚ) (x : Float) : Prop :=
  x.toModel.unpack = .infinity .positive ∨ (x.isFinite = true ∧ p ≤ quantity x)

theorem Rounds.atLeast {x : Float} {v p : ℚ} (h : Rounds x v) (hp : Dyadic p) (hle : p ≤ v) : AtLeast p x := by
  rcases h with hnear | ⟨hinfinite, -⟩
  · exact .inr ⟨hnear.1, Rounds.le (.inl hnear) hnear.1 hp hle⟩
  · exact .inl hinfinite

namespace AtLeast

variable {x y : Float} {p q : ℚ}

theorem weaken (h : AtLeast p x) (hle : q ≤ p) : AtLeast q x :=
  h.imp id fun hfinite => ⟨hfinite.1, hle.trans hfinite.2⟩

/-- What is positive is infinite or has the positive sign. -/
theorem unpack_of_pos (h : AtLeast p x) (hp : 0 < p) :
    x.toModel.unpack = .infinity .positive ∨ ∃ m e hm, x.toModel.unpack = .finite .positive m e hm := by
  rcases h with hinfinite | ⟨hfinite, hle⟩
  · exact .inl hinfinite
  · rcases unpack_of_nonneg hfinite (hp.le.trans hle) with ⟨sign, hu⟩ | hu
    · rw [quantity_zero hu] at hle
      exact absurd hle (not_le.mpr hp)
    · exact .inr hu

theorem infinite_mul (hx : x.toModel.unpack = .infinity .positive) (hy : AtLeast q y) (hq : 0 < q) :
    (x * y).toModel.unpack = .infinity .positive := by
  show (Float.Model.pack (UnpackedFloat.mul .binary64 x.toModel.unpack y.toModel.unpack)).unpack = _
  rcases hy.unpack_of_pos hq with hu | ⟨m, e, hm, hu⟩ <;> rw [hx, hu] <;>
    exact unpack_pack_infinity .positive

theorem mul_infinite (hx : AtLeast p x) (hp : 0 < p) (hy : y.toModel.unpack = .infinity .positive) :
    (x * y).toModel.unpack = .infinity .positive := by
  show (Float.Model.pack (UnpackedFloat.mul .binary64 x.toModel.unpack y.toModel.unpack)).unpack = _
  rcases hx.unpack_of_pos hp with hu | ⟨m, e, hm, hu⟩ <;> rw [hy, hu] <;>
    exact unpack_pack_infinity .positive

/-- A factor from 1 on makes nothing smaller. -/
theorem mul (hx : AtLeast p x) (hy : AtLeast 1 y) (hp : 0 < p) (hdyadic : Dyadic p) : AtLeast p (x * y) := by
  rcases hx with hinfinite | ⟨hxf, hle⟩
  · exact .inl (infinite_mul hinfinite hy one_pos)
  · rcases hy with hinfinite' | ⟨hyf, hle'⟩
    · exact .inl (mul_infinite (.inr ⟨hxf, hle⟩) hp hinfinite')
    · refine (rounds_mul hxf (hp.le.trans hle) hyf (zero_le_one.trans hle')).atLeast hdyadic ?_
      exact hle.trans (le_mul_of_one_le_right (hp.le.trans hle) hle')

end AtLeast

/-- Products of numbers from 1 on that have doubles are rounded once, however large they are. -/
theorem Rounds.mul {x y : Float} {u v : ℚ} (hx : Rounds x u) (hy : Rounds y v) (hu : Dyadic u) (hv : Dyadic v)
    (hu_le : 1 ≤ u) (hv_le : 1 ≤ v) : Rounds (x * y) (u * v) := by
  have hx_le := hx.atLeast dyadic_one hu_le
  have hy_le := hy.atLeast dyadic_one hv_le
  rcases hx with hxn | ⟨hxi, hmiddle⟩
  · rcases hy with hyn | ⟨hyi, hmiddle'⟩
    · rw [← Rounds.exact (.inl hxn) hxn.1 hu, ← Rounds.exact (.inl hyn) hyn.1 hv]
      exact rounds_mul hxn.1 hxn.2.1 hyn.1 hyn.2.1
    · have hgrows : v ≤ u * v := le_mul_of_one_le_left (zero_le_one.trans hv_le) hu_le
      exact .inr ⟨hx_le.mul_infinite one_pos hyi, hmiddle'.trans hgrows⟩
  · have hgrows : u ≤ u * v := le_mul_of_one_le_right (zero_le_one.trans hu_le) hv_le
    exact .inr ⟨AtLeast.infinite_mul hxi hy_le one_pos, hmiddle.trans hgrows⟩

/-! ## Powers -/

theorem unpack_one : (1.0 : Float).toModel.unpack = .finite .positive (2 ^ 52) (-52) (by decide) := rfl

theorem unpack_two : (2.0 : Float).toModel.unpack = .finite .positive (2 ^ 52) (-51) (by decide) := rfl

theorem rounds_of_unpack {x : Float} {m : ℕ} {e : ℤ} {hm : 0 < m} {v : ℚ}
    (h : x.toModel.unpack = .finite .positive m e hm) (hv : (m : ℚ) * 2 ^ e = v) : Rounds x v := by
  rw [← hv, ← quantity_positive h]
  refine rounds_quantity (isFinite_of_unpack h rfl) ?_
  rw [quantity_positive h]
  positivity

/-- Multiplying with powers of a double from 1 on makes nothing smaller. -/
theorem atLeast_powerFrom {a r : Float} {p : ℚ} (n : ℕ) (ha : AtLeast 1 a) (hr : AtLeast p r) (hp : 0 < p)
    (hdyadic : Dyadic p) : AtLeast p (powerFrom a n r) := by
  have hdigit (n : ℕ) (a r : Float) (ha : AtLeast 1 a) (hr : AtLeast p r) :
      AtLeast p (if n % 2 = 1 then r * a else r) := by
    split
    · exact hr.mul ha hp hdyadic
    · exact hr
  fun_induction powerFrom a n r with
  | case1 a n r next hlast => exact hdigit n a r ha hr
  | case2 a n r next hmore ih => exact ih (ha.mul ha one_pos dyadic_one) (hdigit n a r ha hr)

theorem atLeast_power {a : Float} (n : ℕ) (ha : AtLeast 1 a) : AtLeast 1 (power a n) :=
  atLeast_powerFrom n ha ((rounds_of_unpack unpack_one (by norm_num)).atLeast dyadic_one le_rfl) one_pos dyadic_one

/-- Powers of two are exact, until they are infinite. -/
theorem rounds_powerFrom (a r : Float) (n : ℕ) :
    ∀ i j : ℕ, Rounds a (2 ^ i) → Rounds r (2 ^ j) → Rounds (powerFrom a n r) (2 ^ (j + i * n)) := by
  have hmul (i j : ℕ) (x y : Float) (hx : Rounds x (2 ^ i)) (hy : Rounds y (2 ^ j)) :
      Rounds (x * y) (2 ^ (i + j)) := by
    rw [pow_add]
    exact hx.mul hy (dyadic_two_pow i) (dyadic_two_pow j) (one_le_pow₀ one_le_two) (one_le_pow₀ one_le_two)
  have hdigit (n i j : ℕ) (a r : Float) (ha : Rounds a (2 ^ i)) (hr : Rounds r (2 ^ j)) :
      Rounds (if n % 2 = 1 then r * a else r) (2 ^ (j + i * (n % 2))) := by
    split
    · next hodd =>
      rw [hodd, mul_one]
      exact hmul j i r a hr ha
    · next heven =>
      rw [show n % 2 = 0 by omega, mul_zero, add_zero]
      exact hr
  fun_induction powerFrom a n r with
  | case1 a n r next hlast =>
    intro i j ha hr
    have h := hdigit n i j a r ha hr
    have hexponent : j + i * (n % 2) = j + i * n := by rw [Nat.mod_eq_of_lt (by omega)]
    rwa [hexponent] at h
  | case2 a n r next hmore ih =>
    intro i j ha hr
    have h := ih _ _ (hmul i i a a ha ha) (hdigit n i j a r ha hr)
    have hexponent : j + i * (n % 2) + (i + i) * (n / 2) = j + i * n := by
      conv_rhs => rw [← Nat.mod_add_div n 2]
      ring
    rwa [hexponent] at h

theorem rounds_power_two (n : ℕ) : Rounds (power 2.0 n) (2 ^ n) := by
  have h := rounds_powerFrom 2.0 1.0 n 1 0 (rounds_of_unpack unpack_two (by norm_num))
    (rounds_of_unpack unpack_one (by norm_num))
  rwa [zero_add, one_mul] at h

/-! ## Ceilings -/

theorem isNaN_iff (x : Float) : x.isNaN = x.toModel.unpack.isNaN := rfl

theorem isNaN_of_isFinite {x : Float} (hx : x.isFinite = true) : x.isNaN = false := by
  rw [isFinite_iff] at hx
  rw [isNaN_iff]
  cases hu : x.toModel.unpack with
  | zero | finite => rfl
  | infinity | notANumber => simp [hu, UnpackedFloat.isFinite] at hx

theorem lesser_finite {x top : Float} (hx : x.isFinite = true) (htop : top.isFinite = true) :
    lesser x top = if quantity x < quantity top then x else top := by
  unfold lesser
  rw [isNaN_of_isFinite hx, isNaN_of_isFinite htop, if_neg Bool.false_ne_true, if_neg Bool.false_ne_true]
  simp only [lt_iff_quantity hx htop]

theorem lesser_infinite {x top : Float} (hx : x.toModel.unpack = .infinity .positive) (htop : top.isFinite = true) :
    lesser x top = top := by
  have hnumber : x.isNaN = false := by
    rw [isNaN_iff, hx]
    rfl
  have hnot : ¬ x < top := by
    rw [lt_iff_compare, hx]
    rw [isFinite_iff] at htop
    cases hu : top.toModel.unpack with
    | zero | finite => simp [UnpackedFloat.compare]
    | infinity | notANumber => simp [hu, UnpackedFloat.isFinite] at htop
  unfold lesser
  rw [hnumber, isNaN_of_isFinite htop, if_neg Bool.false_ne_true, if_neg Bool.false_ne_true, if_neg hnot]

/-- From the ceiling on the ceiling counts. -/
theorem AtLeast.lesser_eq {x top : Float} (h : AtLeast (quantity top) x) (htop : top.isFinite = true) :
    lesser x top = top := by
  rcases h with hinfinite | ⟨hx, hle⟩
  · exact lesser_infinite hinfinite htop
  · rw [lesser_finite hx htop, if_neg (not_lt.mpr hle)]

end Failsafe
