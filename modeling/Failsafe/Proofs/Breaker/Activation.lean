import Failsafe.Breaker.Command
import Mathlib.Data.List.Induction

/-!
# Activations and their timers

Two predicates say all there is to know about timers. An `Idle` breaker is inactive and no timer sleeps. A
breaker that is `ActiveSince start stopped` was activated at `start`, and the only timer that can sleep is the
one of this activation: it belongs to the present generation, wakes when the cooldown that began at `start` is
over, and is there unless timers cannot run or the timer was called off (`stopped`).

Every operation takes an idle breaker to an idle one or to one that is active since now, and an active one to
itself or to an idle one (`recordFailure_idle`, `recordFailure_activeSince`, `expire_activeSince`, …). So no
timer of an earlier activation is ever left over, and the test of the generation in `Breaker.wake` never
fails.

On a clock (`ClockedBreaker.Cooling`) an active breaker moreover has not slept through its cooldown yet.
`play_idle_or_cooling` carries this through every run, together with the `Activation` that is under way.
-/

namespace Failsafe

theorem CooldownTimer.isDue_iff {t : CooldownTimer} {now : Nat} :
    t.isDue now = true ↔ t.wakeAt ≤ now := decide_eq_true_iff

namespace Breaker

variable {b : Breaker} {now start : Nat} {stopped : Bool}

/-! ## What no operation changes -/

/-- The two breakers have the same settings. -/
structure Like (b b' : Breaker) : Prop where
  name : b'.name = b.name
  threshold : b'.threshold = b.threshold
  cooldown : b'.cooldown = b.cooldown
  timed : b'.timed = b.timed
  clock : b'.clock = b.clock

theorem Like.refl (b : Breaker) : Like b b := ⟨rfl, rfl, rfl, rfl, rfl⟩

theorem Like.trans {b₁ b₂ b₃ : Breaker} (h₁ : Like b₁ b₂) (h₂ : Like b₂ b₃) : Like b₁ b₃ :=
  ⟨h₂.name.trans h₁.name, h₂.threshold.trans h₁.threshold, h₂.cooldown.trans h₁.cooldown,
    h₂.timed.trans h₁.timed, h₂.clock.trans h₁.clock⟩

theorem callOff_like (b : Breaker) : Like b b.callOff := by
  unfold callOff
  split
  · exact ⟨rfl, rfl, rfl, rfl, rfl⟩
  · exact Like.refl b

theorem startTimer_like (b : Breaker) (now : Nat) : Like b (b.startTimer now) := by
  unfold startTimer
  split
  · have h := callOff_like b
    exact ⟨h.name, h.threshold, h.cooldown, h.timed, h.clock⟩
  · exact Like.refl b

theorem recordFailure_like (b : Breaker) (now : Nat) : Like b (b.recordFailure now) := by
  unfold recordFailure
  dsimp only
  split
  · unfold activate
    have h := startTimer_like
      { b with
        totalFailures := b.totalFailures + 1, consecutive := b.consecutive + 1, active := true,
        activatedAt := some now, activations := b.activations + 1, generation := b.generation + 1 } now
    exact ⟨h.name, h.threshold, h.cooldown, h.timed, h.clock⟩
  · exact ⟨rfl, rfl, rfl, rfl, rfl⟩

theorem reset_like (b : Breaker) : Like b b.reset := by
  unfold reset
  have h := callOff_like { b with generation := b.generation + 1 }
  exact ⟨h.name, h.threshold, h.cooldown, h.timed, h.clock⟩

theorem wake_like (b : Breaker) (timer : CooldownTimer) : Like b (b.wake timer) := by
  unfold wake
  dsimp only
  split <;> exact ⟨rfl, rfl, rfl, rfl, rfl⟩

theorem expire_like (b : Breaker) (now : Nat) : Like b (b.expire now) := by
  unfold expire
  suffices h : ∀ (timers : List CooldownTimer) (b' : Breaker), Like b b' → Like b (timers.foldl wake b') from
    h _ b (Like.refl b)
  intro timers
  induction timers with
  | nil => intro b' h; exact h
  | cons timer timers ih => intro b' h; exact ih _ (h.trans (wake_like b' timer))

/-! ## Idle and active breakers -/

/-- Inactive, and no timer sleeps. -/
structure Idle (b : Breaker) : Prop where
  active : b.active = false
  activatedAt : b.activatedAt = none
  sleeping : b.sleeping = []
  held : b.held = none

/-- The timer of an activation, unless timers cannot run or it was called off. -/
def ownTimer (b : Breaker) (start : Nat) (stopped : Bool) : Option CooldownTimer :=
  if b.timed ∧ !stopped then some ⟨b.cooldownEnd start, b.generation⟩ else none

/-- Active since `start`, with no other timer than the one of this activation. -/
structure ActiveSince (b : Breaker) (start : Nat) (stopped : Bool) : Prop where
  active : b.active = true
  activatedAt : b.activatedAt = some start
  held : b.held = b.ownTimer start stopped
  sleeping : b.sleeping = b.held.toList

/-- The cooldown that began at `start` is over and its timer was not called off. -/
def CooledDown (b : Breaker) (start : Nat) (stopped : Bool) (now : Nat) : Prop :=
  b.timed = true ∧ stopped = false ∧ b.cooldownEnd start ≤ now

theorem new_idle (name : String) (settings : BreakerSettings) (timed : Bool) (clock : Clock) :
    Idle (Breaker.new name settings timed clock) := ⟨rfl, rfl, rfl, rfl⟩

theorem callOff_sleeping (h : b.sleeping = b.held.toList) : b.callOff = { b with sleeping := [], held := none } := by
  unfold callOff
  split
  · next timer htimer =>
    rw [htimer] at h
    simp [h]
  · next hnone =>
    rw [hnone] at h
    cases b
    simp_all

theorem reset_idle (h : b.sleeping = b.held.toList) : b.reset.Idle ∧ b.reset.consecutive = 0 := by
  unfold reset
  dsimp only
  rw [callOff_sleeping (b := { b with generation := b.generation + 1 }) h]
  exact ⟨⟨rfl, rfl, rfl, rfl⟩, rfl⟩

/-- With no timer to call off, starting one only adds it. -/
theorem startTimer_alone (hsleeping : b.sleeping = []) (hheld : b.held = none) (now : Nat) :
    b.startTimer now =
      { b with sleeping := (b.ownTimer now false).toList, held := b.ownTimer now false } := by
  unfold startTimer ownTimer
  by_cases htimed : b.timed = true
  · rw [if_pos htimed, if_pos ⟨htimed, rfl⟩]
    dsimp only
    rw [callOff_sleeping (by rw [hsleeping, hheld]; rfl)]
    rfl
  · rw [if_neg htimed, if_neg (fun hc => htimed hc.1)]
    cases b
    simp_all

/-- Activating an idle breaker starts one timer, of the new generation. -/
theorem activate_idle (h : b.Idle) (now : Nat) : (b.activate now).ActiveSince now false := by
  unfold activate
  dsimp only
  have hstart := startTimer_alone
    (b := { b with
      active := true, activatedAt := some now, activations := b.activations + 1,
      generation := b.generation + 1 }) h.sleeping h.held now
  rw [hstart]
  exact ⟨rfl, rfl, rfl, rfl⟩

/-- A failure leaves an idle breaker idle or activates it now. -/
theorem recordFailure_idle (h : b.Idle) (now : Nat) :
    (b.recordFailure now).Idle ∨ (b.recordFailure now).ActiveSince now false := by
  unfold recordFailure
  dsimp only
  split
  · right
    exact activate_idle
      (b := { b with totalFailures := b.totalFailures + 1, consecutive := b.consecutive + 1 })
      ⟨h.active, h.activatedAt, h.sleeping, h.held⟩ now
  · left
    exact ⟨h.active, h.activatedAt, h.sleeping, h.held⟩

/-- A further failure changes nothing about an activation. -/
theorem recordFailure_activeSince (h : b.ActiveSince start stopped) (now : Nat) :
    (b.recordFailure now).ActiveSince start stopped := by
  unfold recordFailure
  dsimp only
  rw [if_neg (by simp [h.active])]
  exact ⟨h.active, h.activatedAt, h.held, h.sleeping⟩

theorem recordSuccess_idle (h : b.Idle) : b.recordSuccess.Idle :=
  ⟨h.active, h.activatedAt, h.sleeping, h.held⟩

/-- A success changes nothing about an activation. -/
theorem recordSuccess_activeSince (h : b.ActiveSince start stopped) :
    b.recordSuccess.ActiveSince start stopped :=
  ⟨h.active, h.activatedAt, h.held, h.sleeping⟩

theorem shutdown_idle (h : b.Idle) : b.shutdown.Idle := by
  unfold shutdown
  rw [callOff_sleeping (by rw [h.sleeping, h.held]; rfl)]
  exact ⟨h.active, h.activatedAt, rfl, rfl⟩

/-- A shutdown only calls the timer of an activation off. -/
theorem shutdown_activeSince (h : b.ActiveSince start stopped) : b.shutdown.ActiveSince start true := by
  unfold shutdown
  rw [callOff_sleeping h.sleeping]
  refine ⟨h.active, h.activatedAt, ?_, rfl⟩
  show none = ownTimer _ start true
  unfold ownTimer
  rw [if_neg (by simp)]

theorem expire_idle (h : b.Idle) (now : Nat) : b.expire now = b := by
  unfold expire
  rw [h.sleeping]
  rfl

/-- A timer that is due wakes in the generation it was started in, and clears the breaker. -/
theorem expire_cooledDown (h : b.ActiveSince start stopped) (hdue : b.CooledDown start stopped now) :
    (b.expire now).Idle ∧ (b.expire now).consecutive = 0 := by
  obtain ⟨htimed, hstopped, hle⟩ := hdue
  have hheld : b.held = some ⟨b.cooldownEnd start, b.generation⟩ := by
    rw [h.held, ownTimer, if_pos ⟨htimed, by simp [hstopped]⟩]
  have hsleeping : b.sleeping = [⟨b.cooldownEnd start, b.generation⟩] := by
    rw [h.sleeping, hheld]
    rfl
  have hwakes : CooldownTimer.isDue ⟨b.cooldownEnd start, b.generation⟩ now = true :=
    CooldownTimer.isDue_iff.mpr hle
  unfold expire
  rw [hsleeping, List.filter_cons_of_pos (by exact hwakes)]
  simp only [List.filter_nil, List.foldl_cons, List.foldl_nil]
  unfold wake
  dsimp only
  rw [if_pos rfl]
  refine ⟨⟨rfl, rfl, ?_, rfl⟩, rfl⟩
  show b.sleeping.erase _ = []
  rw [hsleeping]
  simp

/-- No timer of another activation can wake. -/
theorem expire_activeSince (h : b.ActiveSince start stopped) (hdue : ¬ b.CooledDown start stopped now) :
    b.expire now = b := by
  unfold expire
  rw [List.filter_eq_nil_iff.mpr, List.foldl_nil]
  intro timer htimer hwakes
  rw [h.sleeping, h.held, Option.mem_toList, ownTimer] at htimer
  by_cases hc : b.timed = true ∧ (!stopped) = true
  · rw [if_pos hc] at htimer
    obtain rfl := Option.some.inj htimer
    exact hdue ⟨hc.1, by simpa using hc.2, CooldownTimer.isDue_iff.mp hwakes⟩
  · rw [if_neg hc] at htimer
    exact absurd htimer (by simp)

end Breaker

/-! ## Runs on a clock -/

namespace ClockedBreaker

open Breaker

variable {c : ClockedBreaker} {start : Nat} {stopped : Bool}

/-- The activation under way after `before ++ .command (.failure times) :: since`: these failures found the
breaker inactive, and it has been active ever since. -/
structure Activation (c : ClockedBreaker) (before : List BreakerStep) (times : Nat)
    (since : List BreakerStep) : Prop where
  inactive : (c.play before).breaker.active = false
  active : ∀ part, part <+: since →
    (c.play (before ++ .command (.failure times) :: part)).breaker.active = true

/-- Active since `start`, and not through with the cooldown. -/
structure Cooling (c : ClockedBreaker) (start : Nat) (stopped : Bool) : Prop where
  activeSince : c.breaker.ActiveSince start stopped
  pending : ¬ c.breaker.CooledDown start stopped c.now

theorem play_concat (c : ClockedBreaker) (steps : List BreakerStep) (s : BreakerStep) :
    c.play (steps ++ [s]) = (c.play steps).step s := by
  simp [play]

theorem repeat_keeps {P : Breaker → Prop} {f : Breaker → Breaker} (hf : ∀ b, P b → P (f b)) :
    ∀ (n : Nat) (b : Breaker), P b → P (n.repeat f b) := by
  intro n
  induction n with
  | zero => intro b h; exact h
  | succ n ih => intro b h; exact hf _ (ih b h)

theorem apply_like (b : Breaker) (now : Nat) (command : BreakerCommand) : Like b (b.apply now command) := by
  cases command with
  | failure times =>
    exact repeat_keeps (P := Like b) (fun b' h => h.trans (recordFailure_like b' now)) times b (Like.refl b)
  | success times =>
    exact repeat_keeps (P := Like b) (f := (·.recordSuccess))
      (fun _ h => ⟨h.name, h.threshold, h.cooldown, h.timed, h.clock⟩) times b (Like.refl b)
  | reset => exact reset_like b
  | shutdown => exact callOff_like b
  | metrics => exact Like.refl b

theorem step_like (c : ClockedBreaker) (s : BreakerStep) : Like c.breaker (c.step s).breaker := by
  cases s with
  | command command => exact (apply_like c.breaker c.now command).trans (expire_like _ _)
  | sleep ms => exact expire_like _ _

theorem play_like (c : ClockedBreaker) (steps : List BreakerStep) : Like c.breaker (c.play steps).breaker := by
  induction steps generalizing c with
  | nil => exact Like.refl _
  | cons s steps ih => exact (step_like c s).trans (ih (c.step s))

theorem cooledDown_like {b b' : Breaker} (h : Like b b') {now : Nat} :
    b'.CooledDown start stopped now ↔ b.CooledDown start stopped now := by
  unfold CooledDown cooldownEnd
  rw [h.timed, h.cooldown, h.clock]

/-- Letting happen what is due takes an activation to its end or leaves it as it is. -/
theorem expire_cooling {b : Breaker} (h : b.ActiveSince start stopped) (now : Nat) :
    (b.CooledDown start stopped now ∧ (b.expire now).Idle ∧ (b.expire now).consecutive = 0) ∨
      (¬ b.CooledDown start stopped now ∧ Cooling ⟨now, b.expire now⟩ start stopped) := by
  by_cases hdue : b.CooledDown start stopped now
  · exact Or.inl ⟨hdue, expire_cooledDown h hdue⟩
  · -- Nothing that sleeps is due, so the breaker is the same as before.
    refine Or.inr ⟨hdue, ?_⟩
    rw [expire_activeSince h hdue]
    exact ⟨h, hdue⟩

/-- An idle breaker stays idle, or failures activate it now. -/
theorem step_idle (h : c.breaker.Idle) (s : BreakerStep) :
    (c.step s).breaker.Idle ∨
      ∃ times, s = .command (.failure times) ∧ (c.step s).Cooling c.now false := by
  cases s with
  | sleep ms =>
    left
    show (c.breaker.expire _).Idle
    rw [expire_idle h]
    exact h
  | command command =>
    cases command with
    | failure times =>
      have hrun : (c.breaker.apply c.now (.failure times)).Idle ∨
          (c.breaker.apply c.now (.failure times)).ActiveSince c.now false := by
        refine repeat_keeps (P := fun b => b.Idle ∨ b.ActiveSince c.now false) ?_ times c.breaker (Or.inl h)
        rintro b (hb | hb)
        · exact recordFailure_idle hb c.now
        · exact Or.inr (recordFailure_activeSince hb c.now)
      rcases hrun with hidle | hactive
      · left
        show ((c.breaker.apply c.now (.failure times)).expire c.now).Idle
        rw [expire_idle hidle]
        exact hidle
      · rcases expire_cooling hactive c.now with ⟨-, hidle, -⟩ | ⟨-, hcooling⟩
        · exact Or.inl hidle
        · exact Or.inr ⟨times, rfl, hcooling⟩
    | success times =>
      left
      have hidle : (c.breaker.apply c.now (.success times)).Idle :=
        repeat_keeps (fun _ hb => recordSuccess_idle hb) times c.breaker h
      show ((c.breaker.apply c.now (.success times)).expire c.now).Idle
      rw [expire_idle hidle]
      exact hidle
    | reset =>
      left
      have hidle : c.breaker.reset.Idle := (reset_idle (by rw [h.sleeping, h.held]; rfl)).1
      show (c.breaker.reset.expire c.now).Idle
      rw [expire_idle hidle]
      exact hidle
    | shutdown =>
      left
      show (c.breaker.shutdown.expire c.now).Idle
      rw [expire_idle (shutdown_idle h)]
      exact shutdown_idle h
    | metrics =>
      left
      show (c.breaker.expire c.now).Idle
      rw [expire_idle h]
      exact h

/-- Only a reset ends an activation at once; a shutdown stops its timer. -/
theorem apply_activeSince {b : Breaker} (h : b.ActiveSince start stopped) (now : Nat)
    {command : BreakerCommand} (hne : command ≠ .reset) :
    (b.apply now command).ActiveSince start (stopped || command = .shutdown) := by
  cases command with
  | failure times =>
    rw [decide_eq_false (by simp), Bool.or_false]
    exact repeat_keeps (P := (·.ActiveSince start stopped))
      (fun _ hb => recordFailure_activeSince hb now) times b h
  | success times =>
    rw [decide_eq_false (by simp), Bool.or_false]
    exact repeat_keeps (P := (·.ActiveSince start stopped))
      (fun _ hb => recordSuccess_activeSince hb) times b h
  | reset => exact absurd rfl hne
  | shutdown =>
    rw [decide_eq_true rfl, Bool.or_true]
    exact shutdown_activeSince h
  | metrics =>
    rw [decide_eq_false (by simp), Bool.or_false]
    exact h

/-- An activation ends at a reset and when its cooldown is over, and at no other step. -/
theorem step_cooling (h : c.Cooling start stopped) (s : BreakerStep) :
    ((s = .command .reset ∨ c.breaker.CooledDown start stopped (c.step s).now) ∧
        (c.step s).breaker.Idle ∧ (c.step s).breaker.consecutive = 0) ∨
      (¬ (s = .command .reset ∨ c.breaker.CooledDown start stopped (c.step s).now) ∧
        (c.step s).Cooling start (stopped || s = .command .shutdown)) := by
  cases s with
  | sleep ms =>
    rcases expire_cooling h.activeSince (c.step (.sleep ms)).now with ⟨hdue, hidle⟩ | ⟨hdue, hcooling⟩
    · exact Or.inl ⟨Or.inr hdue, hidle⟩
    · refine Or.inr ⟨?_, ?_⟩
      · rintro (heq | hd)
        · exact absurd heq (by simp)
        · exact hdue hd
      · rw [decide_eq_false (by simp), Bool.or_false]
        exact hcooling
  | command command =>
    by_cases hreset : command = .reset
    · subst hreset
      have hidle := reset_idle h.activeSince.sleeping
      refine Or.inl ⟨Or.inl rfl, ?_⟩
      show (c.breaker.reset.expire c.now).Idle ∧ (c.breaker.reset.expire c.now).consecutive = 0
      rw [expire_idle hidle.1]
      exact hidle
    · -- The clock stands still, so the cooldown is not over yet.
      refine Or.inr ⟨?_, ?_⟩
      · rintro (heq | hdue)
        · exact hreset (BreakerStep.command.inj heq)
        · exact h.pending hdue
      · rw [decide_eq_decide.mpr (Iff.of_eq (BreakerStep.command.injEq command .shutdown))]
        rcases expire_cooling (apply_activeSince h.activeSince c.now hreset) c.now with
          ⟨hdue, -⟩ | ⟨-, hcooling⟩
        · refine absurd ?_ h.pending
          obtain ⟨htimed, hstopped, hend⟩ := (cooledDown_like (apply_like c.breaker c.now command)).mp hdue
          exact ⟨htimed, (Bool.or_eq_false_iff.mp hstopped).1, hend⟩
        · exact hcooling

/-- The activation under way outlasts a step that leaves the breaker active. -/
theorem Activation.concat {before since : List BreakerStep} {times : Nat} (h : Activation c before times since)
    {s : BreakerStep}
    (hactive : (c.play (before ++ .command (.failure times) :: (since ++ [s]))).breaker.active = true) :
    Activation c before times (since ++ [s]) := by
  refine ⟨h.inactive, fun part hpart => ?_⟩
  rcases List.prefix_concat_iff.mp hpart with rfl | hpart
  · exact hactive
  · exact h.active part hpart

/-- After every run a new breaker is idle, or it is in the cooldown of the activation under way. -/
theorem play_idle_or_cooling (name : String) (settings : BreakerSettings) (timed : Bool) (clock : Clock)
    (run : List BreakerStep) :
    ((new name settings timed clock).play run).breaker.Idle ∨
      ∃ before times since, run = before ++ .command (.failure times) :: since ∧
        Activation (new name settings timed clock) before times since ∧
        ((new name settings timed clock).play run).Cooling ((new name settings timed clock).play before).now
          (.command .shutdown ∈ since) := by
  -- Steps are added at the end of the run, so that the activation under way is the last one.
  induction run using List.reverseRecOn with
  | nil => exact Or.inl (new_idle name settings timed clock)
  | append_singleton run s ih =>
    rw [play_concat]
    rcases ih with hidle | ⟨before, times, since, rfl, hactivation, hcooling⟩
    · rcases step_idle hidle s with hidle' | ⟨times, rfl, hcooling⟩
      · exact Or.inl hidle'
      · refine Or.inr ⟨run, times, [], rfl, ⟨hidle.active, fun part hpart => ?_⟩, ?_⟩
        · obtain rfl := List.prefix_nil.mp hpart
          rw [play_concat]
          exact hcooling.activeSince.active
        · rw [decide_eq_false (by simp)]
          exact hcooling
    · rcases step_cooling hcooling s with ⟨-, hidle, -⟩ | ⟨-, hcooling'⟩
      · exact Or.inl hidle
      · have happend : (before ++ .command (.failure times) :: since) ++ [s]
            = before ++ .command (.failure times) :: (since ++ [s]) := by simp
        refine Or.inr ⟨before, times, since ++ [s], happend, hactivation.concat ?_, ?_⟩
        · rw [← happend, play_concat]
          exact hcooling'.activeSince.active
        · rw [show decide (BreakerStep.command .shutdown ∈ since ++ [s])
              = (decide (BreakerStep.command .shutdown ∈ since) || decide (s = .command .shutdown)) by
            simp [eq_comm]]
          exact hcooling'

end ClockedBreaker

end Failsafe
