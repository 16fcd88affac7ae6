import Failsafe.Proofs.Duration.Seconds
import Failsafe.Proofs.Float.Nearest

/-!
# From seconds to a duration and back

A duration counts nanoseconds, a double has 53 digits, and neither can hold what the other can. So a number of seconds
is rounded when it is read as a duration (`Duration.ofSeconds?_eq_some_iff`), and the duration is rounded three times
when it is written as a double. Yet a duration that was read from a double is read from its own double again
(`Duration.ofSeconds?_toSeconds`):

* up to `2^23` seconds a double is finer than a nanosecond, and what is written is less than half of one off;
* between `2^23` and `2^52` seconds it is coarser, and a nanosecond is too little to get from one double to the next;
* from `2^52` seconds on both count whole seconds.
-/

namespace Failsafe

open Float.Model Float.Model.UnpackedFloat

/-! ## The nearest whole number -/

/-- `n` is the whole number nearest to `v`, of two the even one. -/
structure NearestEven (n : ℕ) (v : ℚ) : Prop where
  near : |(n : ℚ) - v| ≤ 1 / 2
  even : |(n : ℚ) - v| = 1 / 2 → n % 2 = 0

namespace NearestEven

variable {n n' : ℕ} {v v' : ℚ}

theorem of_lt (h : |(n : ℚ) - v| < 1 / 2) : NearestEven n v :=
  ⟨h.le, fun htie => absurd htie h.ne⟩

theorem natCast (n : ℕ) : NearestEven n n := of_lt (by rw [sub_self, abs_zero]; norm_num)

/-- A larger number is not rounded to a smaller one. It could only happen at a tie, and one side of a tie is odd. -/
theorem mono (h : NearestEven n v) (h' : NearestEven n' v') (hle : v ≤ v') : n ≤ n' := by
  by_contra hlt
  have hstep : (n' : ℚ) + 1 ≤ n := by exact_mod_cast Nat.not_le.mp hlt
  have hn := (abs_le.mp h.near).2
  have hn' := (abs_le.mp h'.near).1
  have htie : |(n : ℚ) - v| = 1 / 2 := by
    rw [abs_of_pos (by linarith)]
    linarith
  have htie' : |(n' : ℚ) - v'| = 1 / 2 := by
    rw [abs_of_neg (by linarith)]
    linarith
  have hnext : n = n' + 1 := by
    have : (n : ℚ) = n' + 1 := by linarith
    exact_mod_cast this
  have heven := h.even htie
  have heven' := h'.even htie'
  omega

theorem eq (h : NearestEven n v) (h' : NearestEven n' v) : n = n' :=
  Nat.le_antisymm (h.mono h' le_rfl) (h'.mono h le_rfl)

end NearestEven

theorem nearestEven_roundHalfEven (n : ℕ) {d : ℕ} (hd : 0 < d) : NearestEven (roundHalfEven n d) ((n : ℚ) / d) := by
  have hrest : n % d < d := Nat.mod_lt n hd
  unfold roundHalfEven
  dsimp only
  rw [div_eq_parts n hd]
  generalize n / d = q
  generalize n % d = rest at *
  have hnonneg : (0 : ℚ) ≤ rest / d := by positivity
  have hone : (rest : ℚ) / d < 1 := (div_lt_one (by exact_mod_cast hd)).mpr (by exact_mod_cast hrest)
  rcases lt_trichotomy (2 * rest) d with hlt | heq | hgt
  · have hhalf := (div_lt_half_iff hd).mpr hlt
    rw [if_pos hlt]
    exact .of_lt (abs_lt.mpr ⟨by linarith, by linarith⟩)
  · rw [if_neg (by omega), if_pos heq, div_eq_half hd heq]
    -- A tie: the even neighbour is a half away like the other one.
    refine ⟨?_, fun _ => by omega⟩
    rw [abs_le]
    rcases Nat.mod_two_eq_zero_or_one q with hdigit | hdigit <;> rw [hdigit] <;> push_cast <;>
      constructor <;> linarith
  · have hhalf := (half_lt_div_iff hd).mpr hgt
    rw [if_neg (by omega), if_neg (by omega)]
    refine .of_lt (abs_lt.mpr ?_)
    push_cast
    constructor <;> linarith

namespace Duration

theorem nearestEven_nearestNanos (m : ℕ) (e : ℤ) : NearestEven (nearestNanos m e) (m * 2 ^ e * second) := by
  cases e with
  | ofNat k =>
    have hexact : (m : ℚ) * 2 ^ (Int.ofNat k) * second = (m * 2 ^ k * second : ℕ) := by
      push_cast
      rfl
    rw [hexact]
    exact .natCast _
  | negSucc k =>
    have hfraction : (m : ℚ) * 2 ^ (Int.negSucc k) * second = (m * second : ℕ) / (2 ^ (k + 1) : ℕ) := by
      rw [zpow_negSucc]
      push_cast
      ring
    rw [hfraction]
    exact nearestEven_roundHalfEven _ (Nat.two_pow_pos _)

theorem ofNanos?_eq_some_iff {n : ℕ} {d : Duration} : ofNanos? n = some d ↔ n = d.nanos := by
  unfold ofNanos?
  constructor
  · intro h
    split at h
    · rw [← Option.some.inj h]
    · simp at h
  · rintro rfl
    exact dif_pos d.nanos_lt

/-- A number of seconds is the duration with the nearest number of nanoseconds. -/
theorem ofSeconds?_eq_some_iff {x : Float} {d : Duration} :
    ofSeconds? x = some d ↔
      x.isFinite = true ∧ 0 ≤ quantity x ∧ NearestEven d.nanos (quantity x * second) := by
  constructor
  · intro h
    cases hu : x.toModel.unpack with
    | infinity sign => simp [ofSeconds?, hu] at h
    | notANumber => simp [ofSeconds?, hu] at h
    | zero sign =>
      have hd : d = zero := by simpa [ofSeconds?, hu] using h.symm
      rw [quantity_zero hu, hd, zero_mul]
      exact ⟨isFinite_of_unpack hu rfl, le_rfl, .natCast 0⟩
    | finite sign m e hm =>
      cases sign with
      | negative => simp [ofSeconds?, hu] at h
      | positive =>
        have hd : nearestNanos m e = d.nanos := by
          rw [← ofNanos?_eq_some_iff]
          simpa [ofSeconds?, hu] using h
        rw [quantity_positive hu, ← hd]
        exact ⟨isFinite_of_unpack hu rfl, by positivity, nearestEven_nearestNanos m e⟩
  · rintro ⟨hfinite, hnonneg, hnear⟩
    rcases unpack_of_nonneg hfinite hnonneg with ⟨sign, hu⟩ | ⟨m, e, hm, hu⟩
    · rw [quantity_zero hu, zero_mul] at hnear
      have hzero : 0 = d.nanos := NearestEven.eq (.natCast 0) (by exact_mod_cast hnear)
      have hd : ofSeconds? x = some zero := by simp [ofSeconds?, hu]
      rw [hd, Option.some.injEq]
      cases d
      subst hzero
      rfl
    · rw [quantity_positive hu] at hnear
      have hd : ofSeconds? x = ofNanos? (nearestNanos m e) := by simp [ofSeconds?, hu]
      rw [hd, ofNanos?_eq_some_iff]
      exact (nearestEven_nearestNanos m e).eq hnear

/-- Where there is a duration, there is one for every smaller number of seconds, and it is no longer. -/
theorem exists_ofSeconds? {x y : Float} {d : Duration} (h : ofSeconds? y = some d) (hx : x.isFinite = true)
    (hx0 : 0 ≤ quantity x) (hle : quantity x ≤ quantity y) :
    ∃ d', ofSeconds? x = some d' ∧ d'.nanos ≤ d.nanos := by
  have hzero : (0.0 : Float).toModel.unpack = .zero .positive := rfl
  have hlimit : limitSeconds.isFinite = true := rfl
  obtain ⟨hy, -, hbelow⟩ := (isSome_ofSeconds?_iff y).mp (by rw [h]; rfl)
  rw [lt_iff_quantity hy hlimit] at hbelow
  have hsome : (ofSeconds? x).isSome = true := by
    refine (isSome_ofSeconds?_iff x).mpr ⟨hx, ?_, ?_⟩
    · rw [lt_iff_quantity hx (isFinite_of_unpack hzero rfl), quantity_zero hzero]
      exact not_lt.mpr hx0
    · rw [lt_iff_quantity hx hlimit]
      exact lt_of_le_of_lt hle hbelow
  obtain ⟨d', hd'⟩ := Option.isSome_iff_exists.mp hsome
  refine ⟨d', hd', ?_⟩
  have hnear := (ofSeconds?_eq_some_iff.mp h).2.2
  have hnear' := (ofSeconds?_eq_some_iff.mp hd').2.2
  exact hnear'.mono hnear (mul_le_mul_of_nonneg_right hle (Nat.cast_nonneg _))

/-! ## Durations as doubles -/

theorem secs_lt (d : Duration) : d.secs < 2 ^ 64 := by
  have hlt := d.nanos_lt
  unfold secs second
  unfold limit at hlt
  omega

theorem subsec_lt (d : Duration) : d.subsec < second := Nat.mod_lt _ (by decide)

theorem cast_second : (second : ℚ) = 1000000000 := by
  unfold second
  norm_num

theorem second_pos : (0 : ℚ) < second := by
  rw [cast_second]
  norm_num

theorem unpack_billion : (1000000000.0 : Float).toModel.unpack =
    .finite .positive (1000000000 * 2 ^ 23) (-23) (by decide) := rfl

theorem quantity_billion : quantity 1000000000.0 = second := by
  rw [quantity_positive unpack_billion]
  unfold second
  norm_num

/-- A count that has a double is not rounded. -/
theorem quantity_toFloat {n : ℕ} (hlt : n < 2 ^ 64) (hn : Dyadic n) :
    n.toUInt64.toFloat.isFinite = true ∧ quantity n.toUInt64.toFloat = n := by
  have hle : (n : ℚ) ≤ 2 ^ 65 := by exact_mod_cast Nat.le_trans hlt.le (by decide)
  have hrounds := rounds_toFloat n.toUInt64
  rw [Nat.toUInt64, UInt64.toNat_ofNat_of_lt' hlt] at hrounds
  have hfinite := (hrounds.finite (lt_two_pow_of_le hle)).1
  exact ⟨hfinite, hrounds.exact hfinite hn⟩

/-- A duration as a double: the part of a second is off by `2^-54` seconds at most, and the sum with the whole seconds
is rounded once more. -/
theorem exists_fraction (d : Duration) (hsecs : Dyadic d.secs) :
    ∃ b : ℚ, Rounds d.toSeconds (d.secs + b) ∧ 0 ≤ b ∧ b ≤ 1 ∧ |b - (d.subsec : ℚ) / second| ≤ 1 / 2 ^ 54 ∧
      (d.subsec = 0 → b = 0) := by
  have hsub := d.subsec_lt
  have hone : (d.subsec : ℚ) / second ≤ 1 := (div_le_one second_pos).mpr (by exact_mod_cast hsub.le)
  -- Both counts are whole numbers that have a double.
  obtain ⟨hwhole_fin, hwhole_eq⟩ := quantity_toFloat d.secs_lt hsecs
  obtain ⟨hcount_fin, hcount_eq⟩ :=
    quantity_toFloat (Nat.lt_trans hsub (by decide)) (dyadic_natCast (Nat.le_trans hsub.le (by decide)))
  have hwhole_nonneg : 0 ≤ quantity d.secs.toUInt64.toFloat := hwhole_eq ▸ Nat.cast_nonneg _
  have hcount_nonneg : 0 ≤ quantity d.subsec.toUInt64.toFloat := hcount_eq ▸ Nat.cast_nonneg _
  have hquotient := rounds_div hcount_fin hcount_nonneg (isFinite_of_unpack unpack_billion rfl)
    (by rw [quantity_billion]; exact second_pos)
  rw [hcount_eq, quantity_billion] at hquotient
  obtain ⟨hquotient_fin, hquotient_nonneg⟩ := hquotient.finite (lt_two_pow_of_le (by linarith))
  refine ⟨_, ?_, hquotient_nonneg, ?_, ?_, ?_⟩
  · rw [← hwhole_eq]
    exact rounds_add hwhole_fin hwhole_nonneg hquotient_fin hquotient_nonneg
  · exact hquotient.ge hquotient_fin dyadic_one hone
  · have herror := hquotient.error (j := -53) hquotient_fin (by decide) (by positivity) (by norm_num; exact hone)
    norm_num at herror ⊢
    exact herror
  · intro hzero
    have hnone : (d.subsec : ℚ) / second = 0 := by rw [hzero, Nat.cast_zero, zero_div]
    rw [hnone] at hquotient
    exact hquotient.exact hquotient_fin (by exact_mod_cast dyadic_natCast (n := 0) (by decide))

theorem nanos_eq (d : Duration) : (d.nanos : ℚ) / second = d.secs + (d.subsec : ℚ) / second :=
  div_eq_parts d.nanos (by decide)

section

variable {x : Float} {d : Duration} {n : ℕ} {v : ℚ}

theorem nanos_le (hnear : NearestEven d.nanos (v * second)) (h : v ≤ n) : d.nanos ≤ n * second := by
  refine hnear.mono (.natCast _) ?_
  rw [Nat.cast_mul]
  exact mul_le_mul_of_nonneg_right h second_pos.le

theorem le_nanos (hnear : NearestEven d.nanos (v * second)) (h : n ≤ v) : n * second ≤ d.nanos := by
  refine NearestEven.mono (.natCast _) hnear ?_
  rw [Nat.cast_mul]
  exact mul_le_mul_of_nonneg_right h second_pos.le

/-- A distance in seconds, and the same in nanoseconds. -/
theorem abs_sub_mul_second (d : Duration) (v : ℚ) :
    |(d.nanos : ℚ) / second - v| * second = |(d.nanos : ℚ) - v * second| := by
  conv_lhs => rw [← abs_of_pos second_pos, ← abs_mul, sub_mul, abs_of_pos second_pos]
  rw [div_mul_cancel₀ _ second_pos.ne']

/-- In seconds, reading is half a nanosecond off at most. -/
theorem abs_nanos_sub_le (hnear : NearestEven d.nanos (v * second)) : |(d.nanos : ℚ) / second - v| ≤ 1 / 2 / second := by
  rw [le_div_iff₀ second_pos, abs_sub_mul_second]
  exact hnear.near

/-- From `2^52` seconds on a double is a whole number, and nothing is rounded. -/
theorem quantity_toSeconds_of_whole (hx : x.isFinite = true) (hnear : NearestEven d.nanos (quantity x * second))
    (hlarge : 2 ^ 52 ≤ quantity x) : d.toSeconds.isFinite = true ∧ quantity d.toSeconds = quantity x := by
  obtain ⟨k, hk⟩ := exists_multiple (j := 0) hx (by rwa [zpow_zero, mul_one])
  rw [zpow_zero, mul_one] at hk
  have hdyadic : Dyadic k := hk ▸ dyadic_quantity hx (le_trans (by positivity) hlarge)
  have hnanos : d.nanos = k * second := by
    rw [hk, ← Nat.cast_mul] at hnear
    exact hnear.eq (.natCast _)
  have hsecs : d.secs = k := by
    unfold secs
    rw [hnanos, Nat.mul_div_cancel _ (by decide)]
  have hsubsec : d.subsec = 0 := by
    unfold subsec
    rw [hnanos, Nat.mul_mod_left]
  obtain ⟨b, hrounds, -, -, -, hzero⟩ := d.exists_fraction (hsecs ▸ hdyadic)
  have hle : (k : ℚ) ≤ 2 ^ 65 := by
    have hlt := d.secs_lt
    rw [hsecs] at hlt
    exact_mod_cast Nat.le_trans hlt.le (by decide)
  rw [hzero hsubsec, add_zero, hsecs] at hrounds
  have hfinite := (hrounds.finite (lt_two_pow_of_le hle)).1
  exact ⟨hfinite, by rw [hrounds.exact hfinite hdyadic, hk]⟩

/-- Up to `2^23` seconds the double of a duration is less than half a nanosecond off. -/
theorem abs_sub_toSeconds_lt (hle : d.nanos ≤ 2 ^ 23 * second) :
    d.toSeconds.isFinite = true ∧ 0 ≤ quantity d.toSeconds ∧
      |(d.nanos : ℚ) - quantity d.toSeconds * second| < 1 / 2 := by
  have hsecs : d.secs ≤ 2 ^ 23 := Nat.div_le_of_le_mul (by rwa [mul_comm])
  obtain ⟨b, hrounds, hb, hb_le, hb_near, hzero⟩ := d.exists_fraction (dyadic_natCast (by omega))
  have hsecs' : (d.secs : ℚ) ≤ 2 ^ 23 := by exact_mod_cast hsecs
  have hsum : (d.secs : ℚ) + b ≤ 2 ^ 23 := by
    by_cases hfull : d.secs = 2 ^ 23
    · -- No part of a second is left.
      have hnone : d.subsec = 0 := by
        have hparts := Nat.div_add_mod d.nanos second
        unfold secs at hfull
        unfold subsec
        rw [hfull, mul_comm] at hparts
        omega
      rw [hzero hnone, add_zero]
      exact hsecs'
    · have hless : (d.secs : ℚ) + 1 ≤ 2 ^ 23 := by exact_mod_cast (by omega : d.secs + 1 ≤ 2 ^ 23)
      linarith
  obtain ⟨hfinite, hnonneg⟩ := hrounds.finite (lt_two_pow_of_le (by linarith))
  have herror := hrounds.error (j := -30) hfinite (by decide) (by positivity) (by norm_num at hsum ⊢; exact hsum)
  have hunit : (2 : ℚ) ^ (-30 : ℤ) / 2 = 1 / 2 ^ 31 := by norm_num
  rw [hunit] at herror
  have hfar : |(d.nanos : ℚ) / second - quantity d.toSeconds| ≤ 1 / 2 ^ 31 + 1 / 2 ^ 54 := by
    rw [nanos_eq]
    rw [abs_le] at herror hb_near ⊢
    constructor <;> linarith
  refine ⟨hfinite, hnonneg, ?_⟩
  calc |(d.nanos : ℚ) - quantity d.toSeconds * second|
      = |(d.nanos : ℚ) / second - quantity d.toSeconds| * second := (abs_sub_mul_second d _).symm
    _ ≤ (1 / 2 ^ 31 + 1 / 2 ^ 54) * second := mul_le_mul_of_nonneg_right hfar second_pos.le
    _ < 1 / 2 := by
      rw [cast_second]
      norm_num

/-- Multiples less than a unit apart are equal. -/
theorem eq_of_abs_sub_lt {k k' : ℕ} {unit : ℚ} (hunit : 0 < unit) (h : |k * unit - k' * unit| < unit) : k = k' := by
  rw [← sub_mul, abs_mul, abs_of_pos hunit, mul_lt_iff_lt_one_left hunit, abs_lt] at h
  have hle : (k : ℚ) < k' + 1 := by linarith
  have hge : (k' : ℚ) < k + 1 := by linarith
  have hle' : k < k' + 1 := by exact_mod_cast hle
  have hge' : k' < k + 1 := by exact_mod_cast hge
  omega

/-- Between these bounds the double that a duration was read from is the one that it has: both are multiples of
`2^-29`, and less than that apart. -/
theorem quantity_toSeconds_of_between (hx : x.isFinite = true) (hnear : NearestEven d.nanos (quantity x * second))
    (hlow : 2 ^ 23 ≤ quantity x) (hhigh : quantity x ≤ 2 ^ 52) :
    d.toSeconds.isFinite = true ∧ quantity d.toSeconds = quantity x := by
  have hnanos_low : 2 ^ 23 * second ≤ d.nanos := le_nanos hnear (by exact_mod_cast hlow)
  have hnanos_high : d.nanos ≤ 2 ^ 52 * second := nanos_le hnear (by exact_mod_cast hhigh)
  have hsecs_low : 2 ^ 23 ≤ d.secs := (Nat.le_div_iff_mul_le (by decide)).mpr hnanos_low
  have hsecs_high : d.secs ≤ 2 ^ 52 := Nat.div_le_of_le_mul (by rwa [mul_comm])
  have hsecs_low' : (2 : ℚ) ^ 23 ≤ d.secs := by exact_mod_cast hsecs_low
  have hsecs_high' : (d.secs : ℚ) ≤ 2 ^ 52 := by exact_mod_cast hsecs_high
  obtain ⟨b, hrounds, hb, hb_le, hb_near, -⟩ := d.exists_fraction (dyadic_natCast (by omega))
  obtain ⟨hfinite, -⟩ := hrounds.finite (lt_two_pow_of_le (by linarith))
  refine ⟨hfinite, ?_⟩
  -- What is rounded is near the number that was read.
  have hread := abs_nanos_sub_le hnear
  rw [nanos_eq] at hread
  have hnearest := hrounds.near hfinite (dyadic_quantity hx (by linarith))
  have habove : 2 ^ 23 ≤ quantity d.toSeconds :=
    hrounds.le hfinite (by exact_mod_cast dyadic_natCast (n := 2 ^ 23) (by decide)) (by linarith)
  obtain ⟨k, hk⟩ := exists_multiple (j := -29) hfinite (by norm_num at habove ⊢; exact habove)
  obtain ⟨k', hk'⟩ := exists_multiple (j := -29) hx (by norm_num at hlow ⊢; exact hlow)
  have hclose : |quantity x - (d.secs + b)| ≤ 1 / 2 / second + 1 / 2 ^ 54 := by
    rw [abs_le] at hread hb_near ⊢
    constructor <;> linarith
  have happart : |quantity d.toSeconds - quantity x| < 1 / 2 ^ 29 := by
    have htriangle := abs_sub_le (quantity d.toSeconds) (d.secs + b) (quantity x)
    rw [abs_sub_comm ((d.secs : ℚ) + b)] at htriangle
    rw [cast_second] at hclose
    norm_num at hclose ⊢
    linarith
  have hunit : (2 : ℚ) ^ (-29 : ℤ) = 1 / 2 ^ 29 := by norm_num
  rw [hk, hk', hunit] at happart
  rw [hk, hk', eq_of_abs_sub_lt (by positivity) happart]

end

/-- **Round trip.** A duration that was read from a double is read from its own double again. -/
theorem ofSeconds?_toSeconds {x : Float} {d : Duration} (h : ofSeconds? x = some d) :
    ofSeconds? d.toSeconds = some d := by
  obtain ⟨hx, hx0, hnear⟩ := ofSeconds?_eq_some_iff.mp h
  rw [ofSeconds?_eq_some_iff]
  -- Where the numbers are equal there is nothing to show.
  have hsame (heq : d.toSeconds.isFinite = true ∧ quantity d.toSeconds = quantity x) :
      d.toSeconds.isFinite = true ∧ 0 ≤ quantity d.toSeconds ∧ NearestEven d.nanos (quantity d.toSeconds * second) := by
    rw [heq.2]
    exact ⟨heq.1, hx0, hnear⟩
  rcases le_total (quantity x) (2 ^ 23) with hsmall | hlow
  · have hle : d.nanos ≤ 2 ^ 23 * second := nanos_le hnear (by exact_mod_cast hsmall)
    obtain ⟨hfinite, hnonneg, hlt⟩ := abs_sub_toSeconds_lt hle
    exact ⟨hfinite, hnonneg, .of_lt hlt⟩
  · rcases le_total (quantity x) (2 ^ 52) with hhigh | hlarge
    · exact hsame (quantity_toSeconds_of_between hx hnear hlow hhigh)
    · exact hsame (quantity_toSeconds_of_whole hx hnear hlarge)

end Duration

end Failsafe
