import Failsafe.Proofs.Duration.Roundtrip
import Failsafe.Proofs.Float.Power
import Failsafe.Proofs.Recovery.Decision
import Failsafe.Proofs.Settings

/-!
# Delays are capped

A delay goes from a duration to a double, is multiplied with a power, cut at the ceiling, and goes back to a duration.
The cut is made in doubles, so that the delay is capped only because the ceiling itself survives the way there and back
(`Duration.ofSeconds?_toSeconds`). What is below the ceiling as a double is not above it as a duration, and the ceiling
also takes what the power makes infinite (`Duration.ofSeconds?_lesser`).
-/

namespace Failsafe

open Float.Model Float.Model.UnpackedFloat

namespace Duration

variable {x top : Float} {ceiling : Duration}

theorem ofSeconds?_of_whole {n : ℕ} {d : Duration} (hx : x.isFinite = true) (hq : quantity x = n)
    (hd : d.nanos = n * second) : ofSeconds? x = some d := by
  refine ofSeconds?_eq_some_iff.mpr ⟨hx, ?_, ?_⟩
  · rw [hq]
    exact Nat.cast_nonneg n
  · rw [hq, hd, ← Nat.cast_mul]
    exact .natCast _

/-- Cut at a ceiling that is a duration, a double is a duration, and the ceiling if it is infinite. -/
theorem ofSeconds?_lesser (hx : AtLeast 0 x) (htop : ofSeconds? top = some ceiling) :
    ∃ delay, ofSeconds? (lesser x top) = some delay ∧ delay.nanos ≤ ceiling.nanos ∧
      (x.isFinite = false → delay = ceiling) := by
  obtain ⟨htop_fin, -, -⟩ := ofSeconds?_eq_some_iff.mp htop
  rcases hx with hinfinite | ⟨hx_fin, hnonneg⟩
  · rw [lesser_infinite hinfinite htop_fin]
    exact ⟨ceiling, htop, le_rfl, fun _ => rfl⟩
  · rw [lesser_finite hx_fin htop_fin]
    by_cases hlt : quantity x < quantity top
    · rw [if_pos hlt]
      obtain ⟨delay, hdelay, hle⟩ := exists_ofSeconds? htop hx_fin hnonneg hlt.le
      refine ⟨delay, hdelay, hle, fun hinfinite => ?_⟩
      rw [hx_fin] at hinfinite
      cases hinfinite
    · rw [if_neg hlt]
      exact ⟨ceiling, htop, le_rfl, fun _ => rfl⟩

/-- A duration other than zero has a double other than zero. -/
theorem quantity_toSeconds_pos {d : Duration} (h : ofSeconds? d.toSeconds = some d) (hd : d ≠ zero) :
    0 < quantity d.toSeconds := by
  obtain ⟨-, hnonneg, hnear⟩ := ofSeconds?_eq_some_iff.mp h
  refine lt_of_le_of_ne hnonneg fun hzero => hd ?_
  rw [← hzero, zero_mul] at hnear
  have hnanos : d.nanos = 0 := hnear.eq (by exact_mod_cast NearestEven.natCast 0)
  cases d
  subst hnanos
  rfl

end Duration

/-! ## Growing delays -/

theorem backoff_zero (factor : Float) (attempt : UInt32) (ceiling : Option Float) :
    backoff Duration.zero.toSeconds factor attempt ceiling = .zero := by
  unfold backoff
  exact if_pos (by decide)

theorem backoff_of_pos {base : Float} (hbase : base.isFinite = true) (hpos : 0 < quantity base) (factor : Float)
    (attempt : UInt32) (top : Float) :
    backoff base factor attempt (some top) =
      (Duration.ofSeconds? (lesser (base * power factor (min attempt.toNat maxExponent)) top)).getD .max := by
  have hzero : (0.0 : Float).toModel.unpack = .zero .positive := rfl
  have hnot : ¬ base ≤ 0.0 := by
    rw [le_iff_quantity hbase (isFinite_of_unpack hzero rfl), quantity_zero hzero]
    exact not_le.mpr hpos
  unfold backoff
  rw [if_neg hnot]

theorem unpack_rateLimitBase :
    rateLimitBase.toModel.unpack = .finite .positive (30 * 2 ^ 48) (-48) (by decide) := rfl

theorem unpack_rateLimitCeiling :
    rateLimitCeiling.toModel.unpack = .finite .positive (300 * 2 ^ 44) (-44) (by decide) := rfl

/-- The exponent is cut where the delay has long reached its ceiling. -/
theorem min_exponent (n : ℕ) : min (30 * 2 ^ min n maxExponent) 300 = min (30 * 2 ^ n) 300 := by
  have hlarge : 4 ≤ maxExponent := by decide
  rcases le_total n maxExponent with h | h
  · rw [Nat.min_eq_left h]
  · rw [Nat.min_eq_right h]
    have hpow : 2 ^ 4 ≤ 2 ^ maxExponent := Nat.pow_le_pow_right (by decide) hlarge
    have hpow' : 2 ^ 4 ≤ 2 ^ n := Nat.pow_le_pow_right (by decide) (hlarge.trans h)
    generalize 2 ^ maxExponent = p at *
    generalize 2 ^ n = p' at *
    omega

/-- After a rate limit the delay doubles from 30 seconds up to 300. -/
theorem nanos_rateLimit (attempt : UInt32) :
    (backoff rateLimitBase rateLimitFactor attempt (some rateLimitCeiling)).nanos =
      min (30 * 2 ^ attempt.toNat) 300 * Duration.second := by
  have hbase : quantity rateLimitBase = 30 := by
    rw [quantity_positive unpack_rateLimitBase]
    norm_num
  have hceiling : quantity rateLimitCeiling = 300 := by
    rw [quantity_positive unpack_rateLimitCeiling]
    norm_num
  have hceiling_fin : rateLimitCeiling.isFinite = true := isFinite_of_unpack unpack_rateLimitCeiling rfl
  rw [backoff_of_pos (isFinite_of_unpack unpack_rateLimitBase rfl) (by rw [hbase]; norm_num), ← min_exponent]
  generalize min attempt.toNat maxExponent = n
  -- The seconds are exact or infinite.
  have hdyadic : Dyadic (30 * 2 ^ n) := ⟨30, n, by decide, by omega, by rw [zpow_natCast]; norm_num⟩
  have hsecs : Rounds (rateLimitBase * power rateLimitFactor n) (30 * 2 ^ n) := by
    refine (rounds_of_unpack unpack_rateLimitBase (by norm_num)).mul (rounds_power_two n) ?_ (dyadic_two_pow n)
      (by norm_num) (one_le_pow₀ one_le_two)
    exact ⟨30, 0, by decide, by decide, by norm_num⟩
  generalize rateLimitBase * power rateLimitFactor n = secs at *
  obtain ⟨delay, hdelay⟩ : ∃ delay : Duration, delay.nanos = min (30 * 2 ^ n) 300 * Duration.second :=
    ⟨⟨min (30 * 2 ^ n) 300 * Duration.second, by unfold Duration.second Duration.limit; omega⟩, rfl⟩
  have hread : Duration.ofSeconds? (lesser secs rateLimitCeiling) = some delay := by
    by_cases hlt : 30 * 2 ^ n < 300
    · have hlt' : (30 * 2 ^ n : ℚ) < 300 := by exact_mod_cast hlt
      obtain ⟨hsecs_fin, -⟩ := hsecs.finite (lt_two_pow_of_le (by linarith))
      have hexact := hsecs.exact hsecs_fin hdyadic
      rw [lesser_finite hsecs_fin hceiling_fin, hexact, hceiling, if_pos hlt']
      rw [Nat.min_eq_left hlt.le] at hdelay
      exact Duration.ofSeconds?_of_whole hsecs_fin (by rw [hexact]; norm_cast) hdelay
    · have hle : (300 : ℚ) ≤ 30 * 2 ^ n := by exact_mod_cast Nat.not_lt.mp hlt
      have hsecs_ge := hsecs.atLeast (by exact_mod_cast dyadic_natCast (n := 300) (by decide)) hle
      rw [← hceiling] at hsecs_ge
      rw [hsecs_ge.lesser_eq hceiling_fin]
      rw [Nat.min_eq_right (Nat.not_lt.mp hlt)] at hdelay
      exact Duration.ofSeconds?_of_whole hceiling_fin (by rw [hceiling]; norm_num) hdelay
  rw [hread]
  exact hdelay

/-! ## Decisions -/

namespace Policy

/-- The categories whose delay grows from the base delay. -/
def growing : List Category := [.rpcConnection, .rpcTimeout, .unknown, .externalSdk, .transactionFailed]

/-- What the base delay is multiplied with from one attempt to the next. -/
def growth (incident : Incident) : Float :=
  if incident.category = .rpcTimeout then timeoutFactor else incident.backoffMultiplier

/-- The seconds that the base delay has grown to, before they are cut. -/
def grown (incident : Incident) : Float :=
  incident.baseDelay.toSeconds * power (growth incident) (min incident.retryCount.toNat maxExponent)

theorem decide_growing {policy : Policy} {incident : Incident} {active : Bool} (hcategory : incident.category ∈ growing)
    (hretry : (policy.decide incident active).shouldRetry = true) :
    policy.decide incident active = .retryAfter (policy.baseBackoff incident (growth incident)) := by
  cases active with
  | true => exact absurd hretry nofun
  | false =>
    by_cases hlast : incident.category ∈ lastResorts
    · have hgrowth : growth incident = incident.backoffMultiplier := by
        refine if_neg fun htimeout => ?_
        rw [htimeout] at hlast
        exact absurd hlast (by decide)
      rw [decide_lastResort policy hlast] at hretry ⊢
      rw [hgrowth]
      split at hretry
      · exact absurd hretry nofun
      · next hcalm => rw [if_neg hcalm]
    · unfold decide growth
      rw [if_neg Bool.false_ne_true]
      cases hc : incident.category with
      | rpcConnection => rfl
      | rpcTimeout => rfl
      | _ =>
        rw [hc] at hcategory hlast
        first | exact absurd hcategory (by decide) | exact absurd (by decide) hlast

theorem decide_rateLimit (policy : Policy) {incident : Incident} (hcategory : incident.category = .rpcRateLimit) :
    policy.decide incident false =
      .retryAfter (backoff rateLimitBase rateLimitFactor incident.retryCount (some rateLimitCeiling)) := by
  unfold decide
  rw [if_neg Bool.false_ne_true, hcategory]

theorem atLeast_one {x : Float} (hx : x.isFinite = true) (h : ¬ x < 1.0) : AtLeast 1 x := by
  have hone : quantity 1.0 = 1 := by
    rw [quantity_positive unpack_one]
    norm_num
  rw [lt_iff_quantity hx (isFinite_of_unpack unpack_one rfl), hone] at h
  exact .inr ⟨hx, not_lt.mp h⟩

/-- With a base delay that is a duration as a double too, what has grown from it is positive or infinite. -/
theorem atLeast_grown {incident : Incident}
    (hbase : Duration.ofSeconds? incident.baseDelay.toSeconds = some incident.baseDelay)
    (hpos : incident.baseDelay ≠ .zero) (hgrowth : AtLeast 1 (growth incident)) : AtLeast 0 (grown incident) := by
  obtain ⟨hfinite, hnonneg, -⟩ := Duration.ofSeconds?_eq_some_iff.mp hbase
  have hlt := Duration.quantity_toSeconds_pos hbase hpos
  have hproduct : AtLeast (quantity incident.baseDelay.toSeconds) (grown incident) :=
    AtLeast.mul (.inr ⟨hfinite, le_rfl⟩) (atLeast_power _ hgrowth) hlt (dyadic_quantity hfinite hnonneg)
  exact hproduct.weaken hnonneg

/-- A backoff from a base delay that, like the ceiling, is a duration as a double too. -/
theorem baseBackoff_capped {policy : Policy} {incident : Incident}
    (hbase : Duration.ofSeconds? incident.baseDelay.toSeconds = some incident.baseDelay)
    (htop : Duration.ofSeconds? policy.maxDelay.toSeconds = some policy.maxDelay)
    (hgrowth : AtLeast 1 (growth incident)) :
    (policy.baseBackoff incident (growth incident)).nanos ≤ policy.maxDelay.nanos ∧
      (incident.baseDelay = .zero → policy.baseBackoff incident (growth incident) = .zero) ∧
      (incident.baseDelay ≠ .zero →
        Duration.ofSeconds? (lesser (grown incident) policy.maxDelay.toSeconds) =
          some (policy.baseBackoff incident (growth incident)) ∧
        ((grown incident).isFinite = false → policy.baseBackoff incident (growth incident) = policy.maxDelay)) := by
  by_cases hzero : incident.baseDelay = .zero
  · have hdelay : policy.baseBackoff incident (growth incident) = .zero := by
      unfold baseBackoff
      rw [hzero]
      exact backoff_zero _ _ _
    rw [hdelay]
    exact ⟨Nat.zero_le _, fun _ => rfl, fun hpos => absurd hzero hpos⟩
  · obtain ⟨hfinite, -, -⟩ := Duration.ofSeconds?_eq_some_iff.mp hbase
    obtain ⟨delay, hread, hle, hinfinite⟩ := Duration.ofSeconds?_lesser (atLeast_grown hbase hzero hgrowth) htop
    have hdelay : policy.baseBackoff incident (growth incident) = delay := by
      unfold baseBackoff
      rw [backoff_of_pos hfinite (Duration.quantity_toSeconds_pos hbase hzero)]
      show (Duration.ofSeconds? (lesser (grown incident) policy.maxDelay.toSeconds)).getD .max = delay
      rw [hread, Option.getD_some]
    rw [hdelay]
    exact ⟨hle, fun h => absurd h hzero, fun _ => ⟨hread, hinfinite⟩⟩

variable {retry : RetrySettings} {limits : RetryLimits} {ceiling : Duration}

/-- **Delays are capped.** Let the settings be valid and their delays durations. Whatever attempt failed, and however
it failed: a delay that grows from the base delay is at most the longest delay of the settings. It is what has grown,
cut at that ceiling, and the ceiling itself when what has grown is infinite. A delay after a rate limit doubles from 30
seconds up to 300. -/
theorem delay_capped (hvalid : retry.validate = .ok ()) (hlimits : retry.limits? = some limits)
    (hceiling : retry.maxDelay? = some ceiling) (failure : Failure) (operation : String) (data : Option Fields)
    (attempt : UInt32) (active : Bool) :
    let incident := (limits.incident failure operation data).withRetryCount attempt
    let action := Policy.decide ⟨ceiling⟩ incident active
    (action.shouldRetry = true → incident.category ∈ growing →
      action.delay.nanos ≤ ceiling.nanos ∧
      (limits.baseDelay = .zero → action.delay = .zero) ∧
      (limits.baseDelay ≠ .zero →
        Duration.ofSeconds? (lesser (grown incident) ceiling.toSeconds) = some action.delay ∧
        ((grown incident).isFinite = false → action.delay = ceiling))) ∧
    (active = false → incident.category = .rpcRateLimit →
      action.shouldRetry = true ∧ action.delay.nanos = min (30 * 2 ^ attempt.toNat) 300 * Duration.second) := by
  intro incident action
  constructor
  · intro hretry hcategory
    obtain ⟨-, -, -, hmultiplier_fin, hmultiplier⟩ := (RetrySettings.validate_ok_iff retry).mp hvalid
    obtain ⟨base, hbase, rfl⟩ := Option.map_eq_some_iff.mp hlimits
    have hgrowth : AtLeast 1 (growth incident) := by
      unfold growth
      split
      · exact atLeast_one rfl (by decide)
      · exact atLeast_one hmultiplier_fin hmultiplier
    have haction : action = .retryAfter (Policy.baseBackoff ⟨ceiling⟩ incident (growth incident)) :=
      decide_growing hcategory hretry
    rw [haction]
    -- Both delays were read from doubles, and so they are read from their own doubles again.
    exact baseBackoff_capped (Duration.ofSeconds?_toSeconds hbase) (Duration.ofSeconds?_toSeconds hceiling) hgrowth
  · rintro rfl hcategory
    have haction : action = _ := decide_rateLimit ⟨ceiling⟩ hcategory
    rw [haction]
    exact ⟨rfl, nanos_rateLimit attempt⟩

/-- The default settings, after a timeout of the last attempt that a counter can number. -/
theorem delay_capped_timeout :
    ∃ limits ceiling, RetrySettings.default.validate = .ok () ∧ RetrySettings.default.limits? = some limits ∧
      RetrySettings.default.maxDelay? = some ceiling ∧ ceiling.nanos = 60 * Duration.second ∧
      let incident := (limits.incident (.call .timeout "no answer") "quote" none).withRetryCount 4294967295
      (Policy.decide ⟨ceiling⟩ incident false).shouldRetry = true ∧ incident.category ∈ growing ∧
        (Policy.decide ⟨ceiling⟩ incident false).delay.nanos ≤ ceiling.nanos := by
  have hsixty : (60.0 : Float).toModel.unpack = .finite .positive (60 * 2 ^ 47) (-47) (by decide) := rfl
  have hbase : RetrySettings.default.baseDelay? = some (.ofSecs 1) := by
    refine Duration.ofSeconds?_of_whole (n := 1) rfl ?_ rfl
    rw [show RetrySettings.default.baseDelaySeconds = 1.0 from rfl, quantity_positive unpack_one]
    norm_num
  have hceiling : RetrySettings.default.maxDelay? = some (.ofSecs 60) := by
    refine Duration.ofSeconds?_of_whole (n := 60) rfl ?_ rfl
    rw [show RetrySettings.default.maxDelaySeconds = 60.0 from rfl, quantity_positive hsixty]
    norm_num
  have hlimits : RetrySettings.default.limits? = some ⟨3, .ofSecs 1, 2.0⟩ := by
    unfold RetrySettings.limits?
    rw [hbase]
    rfl
  have hcapped := delay_capped rfl hlimits hceiling (.call .timeout "no answer") "quote" none 4294967295 false
  exact ⟨_, _, rfl, hlimits, hceiling, rfl, rfl, by decide, (hcapped.1 rfl (by decide)).1⟩

end Policy

end Failsafe
