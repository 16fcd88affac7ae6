import Failsafe.Proofs.Breaker.Timing
import Failsafe.Proofs.Session.Chronicle
import Failsafe.Proofs.Session.FailFast
import Failsafe.Proofs.Session.Opening

/-!
# The gate between runs

Which runs find the breaker active can be told from the outcomes and ends of the runs before, if nobody but the
runs lays hands on the breaker. A run *activates* if it fails and is, counted with the failed runs since the last
run with a value and since the last cooldown was over, the one that reaches the threshold (`activations`). The next
run is not called at all if and only if less than the cooldown has passed since the last activation
(`step_circuitOpen_iff`).

What carries the induction over the commands is `Follows`: either no cooldown is under way and the breaker is idle with
the count of failed runs (`Counting`), or the breaker is active since the last activation (`Waiting`). Failed calls
inside a run do not occur in either, as the executor tells the breaker of the end of a run only (`Unfolds.records`).
-/

namespace Failsafe

namespace Breaker

variable {b : Breaker} {start : Nat} {stopped : Bool}

theorem foldl_expire_like (b : Breaker) (times : List Nat) : Like b (times.foldl expire b) := by
  induction times generalizing b with
  | nil => exact .refl b
  | cons time times ih => exact (expire_like b time).trans (ih _)

theorem foldl_expire_idle (h : b.Idle) (times : List Nat) : times.foldl expire b = b := by
  induction times with
  | nil => rfl
  | cons time times ih =>
    rw [List.foldl_cons, expire_idle h]
    exact ih

/-- As time goes by an active breaker stays what it is, or its cooldown is over and it starts afresh. -/
theorem foldl_expire_activeSince (h : b.ActiveSince start stopped) (times : List Nat) :
    times.foldl expire b = b ∨
      (∃ time ∈ times, b.CooledDown start stopped time) ∧
        (times.foldl expire b).Idle ∧ (times.foldl expire b).consecutive = 0 := by
  induction times with
  | nil => exact .inl rfl
  | cons time times ih =>
    rw [List.foldl_cons]
    by_cases hdue : b.CooledDown start stopped time
    · have hafresh := expire_cooledDown h hdue
      rw [foldl_expire_idle hafresh.1]
      exact .inr ⟨⟨time, List.mem_cons_self, hdue⟩, hafresh⟩
    · rw [expire_activeSince h hdue]
      rcases ih with hsame | ⟨⟨later, hmem, hlater⟩, hafresh⟩
      · exact .inl hsame
      · exact .inr ⟨⟨later, List.mem_cons_of_mem _ hmem, hlater⟩, hafresh⟩

theorem cooldownEnd_eq (hlimit : b.cooldown.millisUp ≤ sleepLimit) (start : Nat) :
    b.cooldownEnd start = start + b.cooldown.millisUp := Clock.wake_of_reaches (.inl hlimit)

theorem nextWake_singleton {timer : CooldownTimer} (h : b.sleeping = [timer]) :
    b.nextWake = some timer.wakeAt := by
  unfold nextWake
  rw [h]
  rfl

/-- The next timer to wake is that of the activation. -/
theorem nextWake_activeSince (h : b.ActiveSince start false) (htimed : b.timed = true)
    (hlimit : b.cooldown.millisUp ≤ sleepLimit) : b.nextWake = some (start + b.cooldown.millisUp) := by
  have hheld : b.held = some ⟨b.cooldownEnd start, b.generation⟩ := by
    rw [h.held, ownTimer, if_pos ⟨htimed, by simp⟩]
  have hsleeping : b.sleeping = [⟨b.cooldownEnd start, b.generation⟩] := by
    rw [h.sleeping, hheld, Option.toList_some]
  rw [nextWake_singleton hsleeping, cooldownEnd_eq hlimit]

/-- An idle breaker that has not seen enough failures counts one more. -/
theorem recordFailure_below (h : b.Idle) (hbelow : b.consecutive + 1 < b.threshold.toNat) (now : Nat) :
    (b.recordFailure now).Idle ∧ (b.recordFailure now).consecutive = b.consecutive + 1 := by
  unfold recordFailure
  dsimp only
  rw [if_neg (fun hc => by have := hc.1; omega)]
  exact ⟨⟨h.active, h.activatedAt, h.sleeping, h.held⟩, rfl⟩

/-- The failure that reaches the threshold activates. -/
theorem recordFailure_reaches (h : b.Idle) (hreaches : b.threshold.toNat ≤ b.consecutive + 1) (now : Nat) :
    (b.recordFailure now).ActiveSince now false := by
  unfold recordFailure
  dsimp only
  rw [if_pos ⟨hreaches, by rw [h.active]; rfl⟩]
  have hcounted : Idle { b with totalFailures := b.totalFailures + 1, consecutive := b.consecutive + 1 } :=
    ⟨h.active, h.activatedAt, h.sleeping, h.held⟩
  exact activate_idle hcounted now

end Breaker

namespace Session

/-! ## One run -/

/-- What the end of a run is to the breaker. -/
def RunOutcome.record (outcome : RunOutcome) (now : Nat) (b : Breaker) : Breaker :=
  match outcome with
  | .value _ => b.recordSuccess
  | .stopped (.failed _ _ _ _) => b.recordFailure now
  | .stopped (.circuitOpen _) | .cancelled => b

theorem RunOutcome.record_like (outcome : RunOutcome) (now : Nat) (b : Breaker) :
    Breaker.Like b (outcome.record now b) := by
  unfold record
  split
  · exact ⟨rfl, rfl, rfl, rfl, rfl⟩
  · exact Breaker.recordFailure_like b now
  · exact .refl b
  · exact .refl b

theorem RunOutcome.record_failed {outcome : RunOutcome} (h : outcome.isFailed = true) (now : Nat) (b : Breaker) :
    outcome.record now b = b.recordFailure now := by
  unfold isFailed at h
  split at h
  · rfl
  · exact absurd h (by simp)

/-- Whatever ends otherwise leaves an idle breaker idle, and only a value touches the count. -/
theorem RunOutcome.record_other {outcome : RunOutcome} (h : outcome.isFailed = false) (now : Nat) {b : Breaker}
    (hidle : b.Idle) : (outcome.record now b).Idle ∧
      (outcome.record now b).consecutive = if outcome.isValue then 0 else b.consecutive := by
  unfold record isValue
  split
  · exact ⟨Breaker.recordSuccess_idle hidle, rfl⟩
  · exact absurd h (by simp [isFailed])
  · exact ⟨hidle, rfl⟩
  · exact ⟨hidle, rfl⟩

variable {deadline : Option Nat} {limit : Nat} {s s' : Session} {run : Run} {script : CallScript}
  {attempts : List Attempt} {calls : List Call} {outcome : RunOutcome}

theorem Quiet.breaker_eq {time : Nat} (h : s.Quiet time s') (hidle : s.executor.breaker.Idle) :
    s'.executor.breaker = s.executor.breaker := by
  obtain ⟨times, -, hbreaker⟩ := h.breaker
  rw [hbreaker, Breaker.foldl_expire_idle hidle]

/-- What a run that begins at an idle breaker does to the session: the breaker learns of its end and of nothing
else. -/
structure Records (s s' : Session) (outcome : RunOutcome) : Prop where
  breaker : s'.executor.breaker = outcome.record s'.now s.executor.breaker
  now : s.now ≤ s'.now
  ticking : s.Ticking → s'.Ticking

theorem Unfolds.records (h : Unfolds deadline limit s run script attempts s' calls outcome)
    (hscript : script.HandsOff) (hidle : s.executor.breaker.Idle) : Records s s' outcome := by
  induction h with
  | @dropped s run script s' hsleep =>
    have hquiet := s.sleepAmong_quiet deadline script.next.1.takes hscript.next.1.during
    rw [hsleep] at hquiet
    exact ⟨hquiet.breaker_eq hidle, hquiet.now, hquiet.ticking⟩
  | @succeeded s run script a value hanswers hresult =>
    have hquiet := hanswers.quiet hscript
    exact ⟨congrArg Breaker.recordSuccess (hquiet.breaker_eq hidle), hquiet.now, hquiet.ticking⟩
  | @gaveUp s run script a failure hanswers hresult hends =>
    have hquiet := hanswers.quiet hscript
    refine ⟨?_, hquiet.now, hquiet.ticking⟩
    rw [a.givenUp_breaker, hquiet.breaker_eq hidle]
    rfl
  | @droppedWaiting s run script a failure s' hanswers hresult hgoes hsleep =>
    have hquiet := hanswers.quiet hscript
    have hwaits := hanswers.waits_quiet hscript failure (a.action failure).delay.millisUp
    have hbreaker := (a.observed_breaker failure).trans (hquiet.breaker_eq hidle)
    rw [hsleep] at hwaits
    refine ⟨?_, Nat.le_trans hquiet.now hwaits.now, fun hticks => hwaits.ticking (hquiet.ticking hticks)⟩
    exact (hwaits.breaker_eq (by rw [hbreaker]; exact hidle)).trans hbreaker
  | @retried s run script a failure next rest s'' calls outcome hanswers hresult hgoes hsleep hrest ih =>
    have hquiet := hanswers.quiet hscript
    have hwaits := hanswers.waits_quiet hscript failure (a.action failure).delay.millisUp
    have hbreaker := (a.observed_breaker failure).trans (hquiet.breaker_eq hidle)
    rw [hsleep] at hwaits
    -- An idle breaker has no timer that could wake meanwhile, so the next call finds it as it was.
    have hnext : next.executor.breaker = s.executor.breaker :=
      (hwaits.breaker_eq (by rw [hbreaker]; exact hidle)).trans hbreaker
    have hlater := ih hscript.next.2 (by rw [hnext]; exact hidle)
    refine ⟨by rw [← hnext]; exact hlater.breaker, ?_, fun hticks =>
      hlater.ticking (hwaits.ticking (hquiet.ticking hticks))⟩
    exact Nat.le_trans (Nat.le_trans hquiet.now hwaits.now) hlater.now

/-! ## Many runs -/

/-- When cooldowns were over, of those that are over by now. -/
def cooldownEnds (cooldown : Nat) (activations : List Nat) (now : Nat) : List Nat :=
  (activations.map (· + cooldown)).filter (· ≤ now)

/-- The number of failed runs since the last run with a value and since the last of some times. -/
def failuresSince (times : List Nat) (runs : List PastRun) : Nat :=
  (runs.takeWhile fun r => !r.outcome.isValue).countP fun r => r.outcome.isFailed && times.all (· ≤ r.ended)

/-- When runs activated the breaker, the latest first: at the end of each failed run that is, by its number since
the last run with a value and since the last cooldown was over, the one at the threshold. -/
def activations (threshold cooldown : Nat) : List PastRun → List Nat
  | [] => []
  | r :: earlier =>
    let before := activations threshold cooldown earlier
    if r.outcome.isFailed ∧ failuresSince (cooldownEnds cooldown before r.ended) earlier + 1 = threshold then
      r.ended :: before
    else before

end Session

/-- Settings of a breaker that activates, at a failure at least, and that does not stay active for ever. -/
structure BreakerSettings.Timely (settings : BreakerSettings) : Prop where
  threshold : 0 < settings.failureThreshold.toNat
  cooldown : 0 < settings.cooldown.millisUp
  limit : settings.cooldown.millisUp ≤ sleepLimit

/-- The activations by runs of a breaker with these settings. -/
def BreakerSettings.activations (settings : BreakerSettings) (runs : List Session.PastRun) : List Nat :=
  Session.activations settings.failureThreshold.toNat settings.cooldown.millisUp runs

namespace Session

variable {settings : BreakerSettings} {clock : Clock} {runs : List PastRun} {s s' : Session}

theorem cooldownEnds_eq {cooldown now : Nat} {activations : List Nat} (h : ∀ a ∈ activations, a + cooldown ≤ now) :
    cooldownEnds cooldown activations now = activations.map (· + cooldown) := by
  refine List.filter_eq_self.mpr fun e he => ?_
  obtain ⟨a, ha, rfl⟩ := List.mem_map.mp he
  exact decide_eq_true (h a ha)

/-- Failed runs that all ended before one of the times do not count. -/
theorem failuresSince_eq_zero {times : List Nat} {e : Nat} (he : e ∈ times)
    (h : ∀ r ∈ runs, r.outcome.isFailed = true → r.ended < e) : failuresSince times runs = 0 := by
  unfold failuresSince
  rw [List.countP_eq_zero]
  intro r hr hcounts
  obtain ⟨hfailed, hall⟩ := Bool.and_eq_true_iff.mp hcounts
  have hle : e ≤ r.ended := of_decide_eq_true (List.all_eq_true.mp hall e he)
  have hlt := h r ((List.takeWhile_sublist _).subset hr) hfailed
  omega

theorem failuresSince_failed {times : List Nat} {r : PastRun} (h : r.outcome.isFailed = true)
    (hended : ∀ e ∈ times, e ≤ r.ended) (runs : List PastRun) :
    failuresSince times (r :: runs) = failuresSince times runs + 1 := by
  have hvalue : r.outcome.isValue = false := by
    cases houtcome : r.outcome with
    | value result => rw [houtcome] at h; exact absurd h (by simp [RunOutcome.isFailed])
    | stopped error => rfl
    | cancelled => rfl
  unfold failuresSince
  rw [List.takeWhile_cons_of_pos (by simp [hvalue]), List.countP_cons_of_pos]
  rw [h, Bool.true_and, List.all_eq_true]
  exact fun e he => decide_eq_true (hended e he)

theorem failuresSince_other {times : List Nat} {r : PastRun} (h : r.outcome.isFailed = false) (runs : List PastRun) :
    failuresSince times (r :: runs) = if r.outcome.isValue then 0 else failuresSince times runs := by
  unfold failuresSince
  by_cases hvalue : r.outcome.isValue = true
  · rw [if_pos hvalue, List.takeWhile_cons_of_neg (by simp [hvalue])]
    rfl
  · rw [if_neg hvalue, List.takeWhile_cons_of_pos (by simp [hvalue]), List.countP_cons_of_neg (by simp [h])]

/-- No cooldown is under way: the breaker has counted the failed runs, and they are not enough. -/
structure Counting (settings : BreakerSettings) (runs : List PastRun) (s : Session) : Prop where
  idle : s.executor.breaker.Idle
  past : ∀ a ∈ settings.activations runs, a + settings.cooldown.millisUp ≤ s.now
  count : s.executor.breaker.consecutive =
    failuresSince ((settings.activations runs).map (· + settings.cooldown.millisUp)) runs
  below : s.executor.breaker.consecutive < settings.failureThreshold.toNat

/-- The breaker is active since the last activation, and no run has failed since. -/
structure Waiting (settings : BreakerSettings) (runs : List PastRun) (s : Session) (start : Nat) : Prop where
  active : s.executor.breaker.ActiveSince start false
  last : (settings.activations runs).head? = some start
  latest : ∀ a ∈ settings.activations runs, a ≤ start
  failed : ∀ r ∈ runs, r.outcome.isFailed = true → r.ended ≤ start

/-- The breaker of a session is what the runs so far have made of it. -/
structure Follows (settings : BreakerSettings) (clock : Clock) (runs : List PastRun) (s : Session) : Prop where
  like : Breaker.Like (.new "rpc" settings true clock) s.executor.breaker
  ticking : s.Ticking
  ended : ∀ r ∈ runs, r.ended ≤ s.now
  phase : Counting settings runs s ∨ ∃ start, Waiting settings runs s start

/-- The breaker goes on to follow the runs in quiet times. -/
theorem Follows.quiet (h : Follows settings clock runs s) (htimely : settings.Timely) (hquiet : s.Quiet s'.now s') :
    Follows settings clock runs s' := by
  obtain ⟨times, htimes, hbreaker⟩ := hquiet.breaker
  refine ⟨?_, hquiet.ticking h.ticking, fun r hr => Nat.le_trans (h.ended r hr) hquiet.now, ?_⟩
  · rw [hbreaker]
    exact h.like.trans (Breaker.foldl_expire_like _ times)
  rcases h.phase with hcounting | ⟨start, hwaiting⟩
  · -- Time alone does not change a count: the cooldowns were all over before.
    have hsame := hquiet.breaker_eq hcounting.idle
    refine .inl ⟨?_, fun a ha => Nat.le_trans (hcounting.past a ha) hquiet.now, ?_, ?_⟩
    · rw [hsame]
      exact hcounting.idle
    · rw [hsame]
      exact hcounting.count
    · rw [hsame]
      exact hcounting.below
  · rcases Breaker.foldl_expire_activeSince hwaiting.active times with hsame | ⟨⟨time, htime, hdue⟩, hidle, hzero⟩
    · refine .inr ⟨start, ?_, hwaiting.last, hwaiting.latest, hwaiting.failed⟩
      rw [hbreaker, hsame]
      exact hwaiting.active
    · -- The cooldown is over, and whatever failed before does not count any more.
      have hend : start + settings.cooldown.millisUp ≤ s'.now := by
        have hover := (ClockedBreaker.cooledDown_like h.like).mp hdue
        rw [ClockedBreaker.cooledDown_iff (fun _ => htimely.limit)] at hover
        exact Nat.le_trans hover.2.2 (htimes time htime)
      refine .inl ⟨?_, fun a ha => ?_, ?_, ?_⟩
      · rw [hbreaker]
        exact hidle
      · have hle := hwaiting.latest a ha
        omega
      · rw [hbreaker, hzero]
        have hmem : start + settings.cooldown.millisUp ∈
            (settings.activations runs).map (· + settings.cooldown.millisUp) :=
          List.mem_map.mpr ⟨start, List.mem_of_head? hwaiting.last, rfl⟩
        refine (failuresSince_eq_zero hmem fun r hr hfailed => ?_).symm
        have hle := hwaiting.failed r hr hfailed
        have hpos := htimely.cooldown
        omega
      · rw [hbreaker, hzero]
        exact htimely.threshold

theorem activations_of_not_failed (settings : BreakerSettings) {r : PastRun} (h : r.outcome.isFailed = false)
    (runs : List PastRun) :
    settings.activations (r :: runs) = settings.activations runs := by
  refine if_neg fun hcounts => ?_
  rw [h] at hcounts
  exact absurd hcounts.1 (by simp)

/-- A failed run activates if the runs before it have brought the count below the threshold by one. -/
theorem Counting.activations_of_failed (h : Counting settings runs s) {r : PastRun}
    (hfailed : r.outcome.isFailed = true) (hended : s.now ≤ r.ended) :
    settings.activations (r :: runs) =
      if s.executor.breaker.consecutive + 1 = settings.failureThreshold.toNat then
        r.ended :: settings.activations runs
      else settings.activations runs := by
  have hends : cooldownEnds settings.cooldown.millisUp (settings.activations runs) r.ended =
      (settings.activations runs).map (· + settings.cooldown.millisUp) :=
    cooldownEnds_eq fun a ha => Nat.le_trans (h.past a ha) hended
  rw [h.count, ← hends]
  show activations _ _ (r :: runs) = _
  unfold activations
  simp only [hfailed, true_and]
  rfl

section Counted

variable {r : PastRun} (h : Counting settings runs s) (hrecords : Records s s' r.outcome) (hr : r.ended = s'.now)
include h hrecords

theorem Counting.past_later : ∀ a ∈ settings.activations runs, a + settings.cooldown.millisUp ≤ s'.now :=
  fun a ha => Nat.le_trans (h.past a ha) hrecords.now

/-- A run that ends otherwise than by failing does not activate. -/
theorem Counting.other (hfailed : r.outcome.isFailed = false) : Counting settings (r :: runs) s' := by
  have hactivations := activations_of_not_failed settings hfailed runs
  obtain ⟨hidle, hconsecutive⟩ := RunOutcome.record_other hfailed s'.now h.idle
  rw [← hrecords.breaker] at hidle hconsecutive
  refine ⟨hidle, ?_, ?_, ?_⟩
  · rw [hactivations]
    exact h.past_later hrecords
  · rw [hconsecutive, hactivations, failuresSince_other hfailed, h.count]
  · rw [hconsecutive]
    have hbelow := h.below
    split <;> omega

include hr

/-- A failed run that does not reach the threshold is counted. -/
theorem Counting.failed (hfailed : r.outcome.isFailed = true)
    (hthreshold : s.executor.breaker.threshold.toNat = settings.failureThreshold.toNat)
    (hbelow : s.executor.breaker.consecutive + 1 < settings.failureThreshold.toNat) :
    Counting settings (r :: runs) s' := by
  have hactivations := h.activations_of_failed hfailed (by rw [hr]; exact hrecords.now)
  rw [if_neg (Nat.ne_of_lt hbelow)] at hactivations
  have hcounted := Breaker.recordFailure_below h.idle (by omega) s'.now
  rw [← RunOutcome.record_failed hfailed, ← hrecords.breaker] at hcounted
  refine ⟨hcounted.1, ?_, ?_, ?_⟩
  · rw [hactivations]
    exact h.past_later hrecords
  · rw [hcounted.2, h.count, hactivations, failuresSince_failed hfailed]
    intro e he
    obtain ⟨a, ha, rfl⟩ := List.mem_map.mp he
    rw [hr]
    exact h.past_later hrecords a ha
  · rw [hcounted.2]
    exact hbelow

/-- One that does activates. -/
theorem Counting.activates (hfailed : r.outcome.isFailed = true) (hended : ∀ r ∈ runs, r.ended ≤ s.now)
    (hthreshold : s.executor.breaker.threshold.toNat = settings.failureThreshold.toNat)
    (hreaches : s.executor.breaker.consecutive + 1 = settings.failureThreshold.toNat) :
    Waiting settings (r :: runs) s' r.ended := by
  have hactivations := h.activations_of_failed hfailed (by rw [hr]; exact hrecords.now)
  rw [if_pos hreaches] at hactivations
  have hactive := Breaker.recordFailure_reaches h.idle (by omega) s'.now
  rw [← RunOutcome.record_failed hfailed, ← hrecords.breaker, ← hr] at hactive
  refine ⟨hactive, by rw [hactivations]; rfl, ?_, ?_⟩
  · rw [hactivations]
    intro a ha
    rcases List.mem_cons.mp ha with rfl | ha
    · exact Nat.le_refl _
    · have hover := h.past_later hrecords a ha
      omega
  · intro earlier hearlier _
    rcases List.mem_cons.mp hearlier with rfl | hearlier
    · exact Nat.le_refl _
    · rw [hr]
      exact Nat.le_trans (hended earlier hearlier) hrecords.now

end Counted

/-- A run that begins while no cooldown is under way goes into the count, or it activates. -/
theorem Counting.run {request : RunRequest} (h : Counting settings runs s)
    (hlike : Breaker.Like (.new "rpc" settings true clock) s.executor.breaker) (hended : ∀ r ∈ runs, r.ended ≤ s.now)
    (hrecords : Records s (s.run (request.deadline s.now) request).1 (s.pastRun request).outcome) :
    Counting settings (s.pastRun request :: runs) (s.run (request.deadline s.now) request).1 ∨
      ∃ start, Waiting settings (s.pastRun request :: runs) (s.run (request.deadline s.now) request).1 start := by
  have hthreshold : s.executor.breaker.threshold.toNat = settings.failureThreshold.toNat :=
    congrArg UInt32.toNat hlike.threshold
  cases hfailed : (s.pastRun request).outcome.isFailed with
  | false => exact .inl (h.other hrecords hfailed)
  | true =>
    rcases Nat.lt_or_eq_of_le (Nat.succ_le_of_lt h.below) with hbelow | hreaches
    · exact .inl (h.failed hrecords rfl hfailed hthreshold hbelow)
    · exact .inr ⟨_, h.activates hrecords rfl hfailed hended hthreshold hreaches⟩

/-- A run that begins during the cooldown is not called. -/
theorem Waiting.run {start : Nat} (h : Waiting settings runs s start) (request : RunRequest) :
    (s.run (request.deadline s.now) request).1 = s ∧ Waiting settings (s.pastRun request :: runs) s start := by
  have hrun := (run_active h.active.active (request.deadline s.now) request).1
  have hfailed : (s.pastRun request).outcome.isFailed = false := by
    unfold pastRun
    rw [hrun]
    rfl
  have hactivations := activations_of_not_failed settings hfailed runs
  refine ⟨by rw [hrun], h.active, ?_, ?_, ?_⟩
  · rw [hactivations]
    exact h.last
  · rw [hactivations]
    exact h.latest
  · intro r hr hr'
    rcases List.mem_cons.mp hr with rfl | hr
    · rw [hfailed] at hr'
      exact absurd hr' (by simp)
    · exact h.failed r hr hr'

/-- The breaker goes on to follow the runs when one more has come to its end. -/
theorem Follows.run {request : RunRequest} (h : Follows settings clock runs s) (hscript : request.script.HandsOff) :
    Follows settings clock (s.pastRun request :: runs) (s.run (request.deadline s.now) request).1 := by
  rcases h.phase with hcounting | ⟨start, hwaiting⟩
  · have hrecords : Records s (s.run (request.deadline s.now) request).1 (s.pastRun request).outcome :=
      (run_unfolds hcounting.idle.active (request.deadline s.now) request).records hscript hcounting.idle
    refine ⟨?_, hrecords.ticking h.ticking, ?_, hcounting.run h.like h.ended hrecords⟩
    · rw [hrecords.breaker]
      exact h.like.trans (RunOutcome.record_like _ _ _)
    · intro r hr
      rcases List.mem_cons.mp hr with rfl | hr
      · exact Nat.le_refl _
      · exact Nat.le_trans (h.ended r hr) hrecords.now
  · obtain ⟨hsame, hwaiting'⟩ := hwaiting.run request
    refine ⟨by rw [hsame]; exact h.like, by rw [hsame]; exact h.ticking, ?_, .inr ⟨start, by rw [hsame]; exact hwaiting'⟩⟩
    intro r hr
    rcases List.mem_cons.mp hr with rfl | hr
    · exact Nat.le_refl _
    · rw [hsame]
      exact h.ended r hr

/-- Reported events are nothing to it. -/
theorem Follows.forget (h : Follows settings clock runs s) : Follows settings clock runs s.forget := by
  refine ⟨h.like, h.ticking, h.ended, ?_⟩
  rcases h.phase with hcounting | ⟨start, hwaiting⟩
  · exact .inl ⟨hcounting.idle, hcounting.past, hcounting.count, hcounting.below⟩
  · exact .inr ⟨start, hwaiting.active, hwaiting.last, hwaiting.latest, hwaiting.failed⟩

/-! ## Many commands -/

/-- And when a command has been carried out. -/
theorem Follows.perform {command : Command} (h : Follows settings clock runs s) (htimely : settings.Timely)
    (hhands : command.HandsOff) :
    Follows settings clock ((command.request?.map s.pastRun).toList ++ runs) (s.perform command).1 := by
  rcases performed_cases (s := s) hhands with ⟨request, hrequest, hscript, hquiet⟩ | ⟨hrequest, hquiet⟩
  · rw [hrequest]
    exact (h.run hscript).quiet htimely hquiet
  · rw [hrequest]
    exact h.quiet htimely hquiet

/-- What every chronicle of a new session says: the breaker follows the runs, and none of its timers is due. -/
structure Gated (settings : BreakerSettings) (clock : Clock) (c : Chronicle) : Prop where
  follows : Follows settings clock c.runs c.session
  pending : ∀ moment, c.session.executor.breaker.nextWake = some moment → c.session.now < moment

theorem Fresh.gated {settings : Settings} (h : Fresh settings s) (htimely : settings.breaker.Timely) :
    Gated settings.breaker s.clock ⟨s, [], []⟩ := by
  have hidle : s.executor.breaker.Idle := by
    rw [h.breaker]
    exact Breaker.new_idle _ _ _ _
  have hzero : s.executor.breaker.consecutive = 0 := by
    rw [h.breaker]
    rfl
  refine ⟨⟨?_, ?_, List.forall_mem_nil _, .inl ⟨hidle, List.forall_mem_nil _, hzero, ?_⟩⟩, ?_⟩
  · rw [h.breaker]
    exact .refl _
  · intro task htask
    rw [h.tasks] at htask
    exact absurd htask List.not_mem_nil
  · rw [hzero]
    exact htimely.threshold
  · intro moment hwake
    unfold Breaker.nextWake at hwake
    rw [hidle.sleeping] at hwake
    exact absurd hwake (by simp)

theorem Gated.next {c : Chronicle} {command : Command} (h : Gated settings clock c) (htimely : settings.Timely)
    (hhands : command.HandsOff) : Gated settings clock (c.next command) := by
  have hperformed := h.follows.perform htimely hhands
  have hplayed := hperformed.quiet htimely played_quiet
  exact ⟨hplayed.forget, fun moment hwake => lt_nextWake_played hperformed.ticking hwake⟩

theorem chronicle_gated {settings : Settings} (h : Fresh settings s) (htimely : settings.breaker.Timely)
    {commands : List Command} (hhands : ∀ command ∈ commands, command.HandsOff) :
    Gated settings.breaker s.clock (s.chronicle commands) :=
  chronicle_induction (h.gated htimely) (fun hgated hcommand => hgated.next htimely hcommand) hhands

/-- The breaker is active exactly during the cooldown of the last activation. -/
theorem Gated.active_iff {c : Chronicle} (h : Gated settings clock c) (htimely : settings.Timely) :
    c.session.executor.breaker.active = true ↔
      ∃ start, (settings.activations c.runs).head? = some start ∧
        c.session.now < start + settings.cooldown.millisUp := by
  rcases h.follows.phase with hcounting | ⟨start, hwaiting⟩
  · rw [hcounting.idle.active]
    refine iff_of_false (by simp) ?_
    rintro ⟨start, hlast, hlt⟩
    exact absurd (hcounting.past start (List.mem_of_head? hlast)) (by omega)
  · -- Its timer has not woken though all that is due has happened, so it wakes later.
    refine iff_of_true hwaiting.active.active ⟨start, hwaiting.last, h.pending _ ?_⟩
    have hlike := h.follows.like
    have hcooldown : c.session.executor.breaker.cooldown = settings.cooldown := hlike.cooldown
    rw [Breaker.nextWake_activeSince hwaiting.active hlike.timed (by rw [hcooldown]; exact htimely.limit), hcooldown]

/-! ## What the caller sees -/

theorem reply_active {command : Command} {request : RunRequest} (h : s.executor.breaker.active = true)
    (hrequest : command.request? = some request) :
    (s.step command).2.reply = .run [] (.stopped (.circuitOpen request.operation)) := by
  have hrun := (run_active h (request.deadline s.now) request).1
  cases command with
  | run asked =>
    obtain rfl : asked = request := by simpa [Command.request?] using hrequest
    show Reply.run (s.run (asked.deadline s.now) asked).2.1 (s.run (asked.deadline s.now) asked).2.2 = _
    rw [hrun]
  | runFor component asked =>
    obtain rfl : asked = request := by simpa [Command.request?] using hrequest
    have hrunFor : s.runFor (asked.deadline s.now) component asked =
        (s, [], .stopped (.circuitOpen asked.operation)) := by
      unfold runFor
      rw [hrun]
    show Reply.run (s.runFor (asked.deadline s.now) component asked).2.1
      (s.runFor (asked.deadline s.now) component asked).2.2 = _
    rw [hrunFor]
  | _ => exact absurd hrequest (by simp [Command.request?])

theorem reply_inactive {command : Command} {request : RunRequest} (h : s.executor.breaker.active = false)
    (hrequest : command.request? = some request) :
    ∃ calls outcome, (s.step command).2.reply = .run calls outcome ∧ calls ≠ [] := by
  have hcalls := (run_unfolds h (request.deadline s.now) request).calls_ne_nil
  cases command with
  | run asked =>
    obtain rfl : asked = request := by simpa [Command.request?] using hrequest
    exact ⟨_, _, rfl, hcalls⟩
  | runFor component asked =>
    obtain rfl : asked = request := by simpa [Command.request?] using hrequest
    rw [← runFor_calls s _ component] at hcalls
    exact ⟨_, _, rfl, hcalls⟩
  | _ => exact absurd hrequest (by simp [Command.request?])

/-- **When runs fail fast.** Take a new session, on any clock, whose breaker has a positive threshold and a positive
cooldown of no more than thirty years, and any commands that leave the breaker to the runs. A run that is asked for
next, be it for a component or not, is refused without a call if and only if less than the cooldown has passed since
the last activation; otherwise the operation is called.

An activation is the end of a failed run, and which ones activate depends on nothing but how the runs ended and
when: neither failed calls that are tried again count nor runs that were refused or dropped. -/
theorem step_circuitOpen_iff {settings : Settings} {s : Session} (hnew : new? settings clock = some s)
    (hthreshold : 1 ≤ settings.breaker.failureThreshold.toNat) (hcooldown : 0 < settings.breaker.cooldown.millisUp)
    (hlimit : settings.breaker.cooldown.millisUp ≤ sleepLimit) (commands : List Command)
    (hhands : ∀ command ∈ commands, command.HandsOff) :
    let c := s.chronicle commands
    let cooling := ∃ start, (settings.breaker.activations c.runs).head? = some start ∧
      c.session.now < start + settings.breaker.cooldown.millisUp
    ∀ command request, command.request? = some request →
      ((c.session.step command).2.reply = .run [] (.stopped (.circuitOpen request.operation)) ↔ cooling) ∧
      (¬ cooling → ∃ calls outcome, (c.session.step command).2.reply = .run calls outcome ∧ calls ≠ []) := by
  intro c cooling command request hrequest
  have htimely : settings.breaker.Timely := ⟨hthreshold, hcooldown, hlimit⟩
  have hactive : c.session.executor.breaker.active = true ↔ cooling :=
    (chronicle_gated (new?_fresh hnew) htimely hhands).active_iff htimely
  rw [← hactive]
  by_cases h : c.session.executor.breaker.active = true
  · exact ⟨iff_of_true (reply_active h hrequest) h, fun hnot => absurd h hnot⟩
  · rw [Bool.not_eq_true] at h
    obtain ⟨calls, outcome, hreply, hcalls⟩ := reply_inactive h hrequest
    refine ⟨iff_of_false (fun hrefused => ?_) (by simp [h]), fun _ => ⟨calls, outcome, hreply, hcalls⟩⟩
    rw [hreply] at hrefused
    exact hcalls (Reply.run.inj hrefused).1

/-- Settings under which the second failed run in a row activates the breaker for half a minute. -/
def twoStrikes : Settings := { Settings.default with breaker := ⟨2, 30⟩ }

/-- An operation that fails for good after ten milliseconds. -/
def failing : RunRequest :=
  ⟨"ping", [], ⟨[], { takes := 10, side := [], result := .error (.call .sdk "fatal") }⟩, none⟩

/-- A run with a value between failed ones, and nearly all of a cooldown after them. -/
def strikes : List Command := [.run failing, .run ping, .run failing, .runFor "feed" failing, .sleep 29999]

theorem handsOff_strikes : ∀ command ∈ strikes ++ [.sleep 1], command.HandsOff := by decide

/-- The third failure, at 30 ms, is the second in a row. A millisecond before 30030 ms the next run is refused; at
30030 ms it is called. -/
theorem step_circuitOpen_iff_twoStrikes :
    ∃ s, new? twoStrikes = some s ∧
      ((s.chronicle strikes).session.step (.run ping)).2.reply = .run [] (.stopped (.circuitOpen "ping")) ∧
      ∃ calls outcome, ((s.chronicle (strikes ++ [.sleep 1])).session.step (.runFor "feed" ping)).2.reply =
        .run calls outcome ∧ calls ≠ [] := by
  have hvalues : (new? twoStrikes).map (fun s =>
      let c := s.chronicle strikes
      let c' := s.chronicle (strikes ++ [.sleep 1])
      ((c.session.now, twoStrikes.breaker.activations c.runs),
        (c'.session.now, twoStrikes.breaker.activations c'.runs))) =
      some ((30029, [30]), (30030, [30])) := by decide +kernel
  obtain ⟨s, hnew, hvalues⟩ := Option.map_eq_some_iff.mp hvalues
  simp only [Prod.mk.injEq] at hvalues
  obtain ⟨⟨hnow, hactivations⟩, hnow', hactivations'⟩ := hvalues
  have hstrikes := step_circuitOpen_iff hnew (by decide) (by decide) (by decide) strikes
    (fun command hc => handsOff_strikes command (List.mem_append_left _ hc)) (.run ping) ping rfl
  have hlater := step_circuitOpen_iff hnew (by decide) (by decide) (by decide) (strikes ++ [.sleep 1])
    handsOff_strikes (.runFor "feed" ping) ping rfl
  rw [hnow, hactivations] at hstrikes
  rw [hnow', hactivations'] at hlater
  refine ⟨s, hnew, hstrikes.1.mpr ⟨30, rfl, by decide⟩, hlater.2 ?_⟩
  rintro ⟨start, hstart, hlt⟩
  obtain rfl : 30 = start := by simpa using hstart
  exact absurd hlt (by decide)

end Session

end Failsafe
