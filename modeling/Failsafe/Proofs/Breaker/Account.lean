import Failsafe.Proofs.Breaker.Activation
import Failsafe.Proofs.Breaker.Totals

/-!
# What the figures of a breaker say

A run of a breaker on a clock is a row of single acts, each with the breaker that it finds (`ClockedBreaker.moves`):
failures, successes, resets and shutdowns, and after each step the timers that are due wake. At every point of the row
the figures of the breaker can be told from the acts before it (`moves_account`): how often it failed, succeeded and was
activated, and how often it failed since it last started over.

`Accounts` is what all acts keep. The counts of the acts are in it, and that an inactive breaker is below its
threshold; and also that the breaker is `Sound`, that is, idle or active with no other timer than its own, since a timer
of another activation would clear the count in the midst of things.
-/

namespace Failsafe

namespace Breaker

variable {b : Breaker}

/-! ## Sound breakers -/

/-- Idle, or active with no other timer than that of the activation. -/
def Sound (b : Breaker) : Prop := b.Idle ∨ ∃ start stopped, b.ActiveSince start stopped

theorem sound_new (name : String) (settings : BreakerSettings) (timed : Bool) (clock : Clock) :
    (Breaker.new name settings timed clock).Sound :=
  .inl (new_idle name settings timed clock)

theorem Sound.sleeping (h : b.Sound) : b.sleeping = b.held.toList := by
  rcases h with hidle | ⟨start, stopped, hactive⟩
  · rw [hidle.sleeping, hidle.held]
    rfl
  · exact hactive.sleeping

/-- A sound breaker that is inactive is idle. -/
theorem Sound.idle (h : b.Sound) (hinactive : b.active = false) : b.Idle := by
  rcases h with hidle | ⟨start, stopped, hactive⟩
  · exact hidle
  · exact absurd hactive.active (by simp [hinactive])

theorem Sound.isSome_activatedAt_iff (h : b.Sound) : b.activatedAt.isSome = true ↔ b.active = true := by
  rcases h with hidle | ⟨start, stopped, hactive⟩
  · rw [hidle.activatedAt, hidle.active]
    simp
  · rw [hactive.activatedAt, hactive.active]
    simp

theorem Sound.recordFailure (h : b.Sound) (now : Nat) : (b.recordFailure now).Sound := by
  rcases h with hidle | ⟨start, stopped, hactive⟩
  · rcases recordFailure_idle hidle now with hidle' | hactive
    · exact .inl hidle'
    · exact .inr ⟨now, false, hactive⟩
  · exact .inr ⟨start, stopped, recordFailure_activeSince hactive now⟩

theorem Sound.recordSuccess (h : b.Sound) : b.recordSuccess.Sound := by
  rcases h with hidle | ⟨start, stopped, hactive⟩
  · exact .inl (recordSuccess_idle hidle)
  · exact .inr ⟨start, stopped, recordSuccess_activeSince hactive⟩

theorem Sound.reset (h : b.Sound) : b.reset.Sound := .inl (reset_idle h.sleeping).1

theorem Sound.shutdown (h : b.Sound) : b.shutdown.Sound := by
  rcases h with hidle | ⟨start, stopped, hactive⟩
  · exact .inl (shutdown_idle hidle)
  · exact .inr ⟨start, true, shutdown_activeSince hactive⟩

/-- The timers that are due clear an active breaker, or nothing changes. -/
theorem Sound.expire_cases (h : b.Sound) (now : Nat) :
    b.expire now = b ∨ b.active = true ∧ (b.expire now).Idle ∧ (b.expire now).consecutive = 0 := by
  rcases h with hidle | ⟨start, stopped, hactive⟩
  · exact .inl (expire_idle hidle now)
  · by_cases hdue : b.CooledDown start stopped now
    · exact .inr ⟨hactive.active, expire_cooledDown hactive hdue⟩
    · exact .inl (expire_activeSince hactive hdue)

theorem Sound.expire (h : b.Sound) (now : Nat) : (b.expire now).Sound := by
  rcases h.expire_cases now with hsame | ⟨-, hidle, -⟩
  · rw [hsame]
    exact h
  · exact .inl hidle

theorem Sound.foldl_expire (h : b.Sound) (times : List Nat) : (times.foldl Breaker.expire b).Sound :=
  List.foldlRecOn times Breaker.expire h fun _ hb now _ => hb.expire now

/-- Whatever is asked of a sound breaker, it stays sound. -/
theorem Sound.apply (h : b.Sound) (now : Nat) (command : BreakerCommand) : (b.apply now command).Sound := by
  cases command with
  | failure times => exact ClockedBreaker.repeat_keeps (P := Sound) (fun b hb => hb.recordFailure now) times b h
  | success times => exact ClockedBreaker.repeat_keeps (P := Sound) (fun b hb => hb.recordSuccess) times b h
  | reset => exact h.reset
  | shutdown => exact h.shutdown
  | metrics => exact h

/-- A sound breaker that has been shut down has no timer left; that is all that has become of it. -/
theorem Sound.shutdown_eq (h : b.Sound) : b.shutdown = { b with sleeping := [], held := none } :=
  callOff_sleeping h.sleeping

/-! ## One failure -/

/-- Starting a timer is about timers only. -/
theorem startTimer_eq (b : Breaker) (now : Nat) :
    ∃ sleeping held, b.startTimer now = { b with sleeping := sleeping, held := held } := by
  unfold startTimer callOff
  split
  · dsimp only
    split <;> exact ⟨_, _, rfl⟩
  · exact ⟨b.sleeping, b.held, rfl⟩

/-- A failure is counted; and it activates the breaker if this is inactive and has reached the threshold. -/
theorem recordFailure_cases (b : Breaker) (now : Nat) :
    (b.recordFailure now).consecutive = b.consecutive + 1 ∧
      (b.active = false ∧ b.threshold.toNat ≤ b.consecutive + 1 ∧
          (b.recordFailure now).active = true ∧ (b.recordFailure now).activations = b.activations + 1 ∨
        (b.active = true ∨ b.consecutive + 1 < b.threshold.toNat) ∧
          (b.recordFailure now).active = b.active ∧ (b.recordFailure now).activations = b.activations) := by
  unfold recordFailure
  dsimp only
  split
  · next hreaches =>
    obtain ⟨hle, hinactive⟩ := hreaches
    obtain ⟨sleeping, held, hstart⟩ := startTimer_eq
      { b with
        totalFailures := b.totalFailures + 1, consecutive := b.consecutive + 1, active := true,
        activatedAt := some now, activations := b.activations + 1, generation := b.generation + 1 } now
    unfold activate
    dsimp only
    rw [hstart]
    exact ⟨rfl, .inl ⟨by simpa using hinactive, hle, rfl, rfl⟩⟩
  · next hbelow =>
    refine ⟨rfl, .inr ⟨?_, rfl, rfl⟩⟩
    cases hactive : b.active with
    | true => exact .inl rfl
    | false => exact .inr (Nat.lt_of_not_le fun hle => hbelow ⟨hle, by simp [hactive]⟩)

end Breaker

/-! ## Single acts -/

/-- The single things that happen to a breaker. -/
inductive BreakerAct where
  | failure
  | success
  | reset
  | shutdown
  /-- The timers that are due wake, if there are any. -/
  | expiry
deriving DecidableEq, Repr

/-- The breaker after an act at a time. -/
def Breaker.undergo (b : Breaker) (now : Nat) : BreakerAct → Breaker
  | .failure => b.recordFailure now
  | .success => b.recordSuccess
  | .reset => b.reset
  | .shutdown => b.shutdown
  | .expiry => b.expire now

/-- An act, and the breaker that it finds. -/
structure BreakerMove where
  time : Nat
  act : BreakerAct
  before : Breaker

namespace BreakerMove

/-- The breaker that the act leaves. -/
def after (m : BreakerMove) : Breaker := m.before.undergo m.time m.act

def activates (m : BreakerMove) : Bool := !m.before.active && m.after.active

/-- Whether failures are counted afresh from here on: after a success, after a reset, and when a cooldown is over. -/
def startsOver (m : BreakerMove) : Bool :=
  match m.act with
  | .success | .reset => true
  | .expiry => m.before.active && !m.after.active
  | .failure | .shutdown => false

/-- The failures since it last started over. -/
def failuresInARow (past : List BreakerMove) : Nat :=
  (past.reverse.takeWhile fun m => !m.startsOver).countP (·.act = .failure)

/-- Each act finds the breaker that the one before it has left. -/
def Linked : Breaker → List BreakerMove → Prop
  | _, [] => True
  | b, m :: rest => m.before = b ∧ Linked m.after rest

end BreakerMove

/-- What becomes of a breaker by several moves. -/
def Breaker.afterMoves (b : Breaker) (moves : List BreakerMove) : Breaker := moves.foldl (fun _ m => m.after) b

/-- Several acts at one time. -/
def Breaker.moves (b : Breaker) (now : Nat) : List BreakerAct → List BreakerMove
  | [] => []
  | act :: rest => ⟨now, act, b⟩ :: (b.undergo now act).moves now rest

/-- The acts of a step, in order. -/
def BreakerStep.acts : BreakerStep → List BreakerAct
  | .command (.failure times) => List.replicate times .failure ++ [.expiry]
  | .command (.success times) => List.replicate times .success ++ [.expiry]
  | .command .reset => [.reset, .expiry]
  | .command .shutdown => [.shutdown, .expiry]
  | .command .metrics => [.expiry]
  | .sleep _ => [.expiry]

/-- The moves of a run. -/
def ClockedBreaker.moves (c : ClockedBreaker) : List BreakerStep → List BreakerMove
  | [] => []
  | s :: rest => c.breaker.moves (c.step s).now s.acts ++ (c.step s).moves rest

namespace BreakerMove

variable {b : Breaker} {past moves : List BreakerMove} {m : BreakerMove}

theorem failuresInARow_concat (past : List BreakerMove) (m : BreakerMove) :
    failuresInARow (past ++ [m]) =
      if m.startsOver then 0 else failuresInARow past + if m.act = .failure then 1 else 0 := by
  unfold failuresInARow
  rw [List.reverse_append, List.reverse_singleton, List.singleton_append, List.takeWhile_cons]
  cases m.startsOver with
  | true => rfl
  | false =>
    rw [if_pos (by rfl), if_neg (by simp), List.countP_cons]
    simp

theorem linked_append {rest : List BreakerMove} :
    Linked b (moves ++ rest) ↔ Linked b moves ∧ Linked (b.afterMoves moves) rest := by
  induction moves generalizing b with
  | nil => exact (true_and _).symm ▸ Iff.rfl
  | cons m moves ih =>
    show m.before = b ∧ Linked m.after (moves ++ rest) ↔ (m.before = b ∧ Linked m.after moves) ∧ _
    rw [ih, and_assoc]
    rfl

theorem linked_moves (b : Breaker) (now : Nat) (acts : List BreakerAct) :
    Linked b (b.moves now acts) ∧ b.afterMoves (b.moves now acts) = acts.foldl (·.undergo now) b := by
  induction acts generalizing b with
  | nil => exact ⟨trivial, rfl⟩
  | cons act rest ih =>
    obtain ⟨hlinked, hafter⟩ := ih (b.undergo now act)
    exact ⟨⟨rfl, hlinked⟩, hafter⟩

end BreakerMove

open BreakerMove

namespace ClockedBreaker

theorem repeat_eq_foldl {f : Breaker → Breaker} {now : Nat} {act : BreakerAct} (hf : ∀ b, b.undergo now act = f b)
    (n : Nat) (b : Breaker) : n.repeat f b = (List.replicate n act).foldl (·.undergo now) b := by
  induction n with
  | zero => rfl
  | succ n ih =>
    rw [List.replicate_succ', List.foldl_append, ← ih]
    exact (hf _).symm

/-- A step is its acts. -/
theorem foldl_acts (c : ClockedBreaker) (s : BreakerStep) :
    s.acts.foldl (·.undergo (c.step s).now) c.breaker = (c.step s).breaker := by
  cases s with
  | sleep ms => rfl
  | command command =>
    cases command with
    | failure times =>
      show (List.replicate times BreakerAct.failure ++ [BreakerAct.expiry]).foldl (Breaker.undergo · c.now) c.breaker =
        _
      rw [List.foldl_append, ← repeat_eq_foldl (f := (·.recordFailure c.now)) fun _ => rfl]
      rfl
    | success times =>
      show (List.replicate times BreakerAct.success ++ [BreakerAct.expiry]).foldl (Breaker.undergo · c.now) c.breaker =
        _
      rw [List.foldl_append, ← repeat_eq_foldl (f := (·.recordSuccess)) fun _ => rfl]
      rfl
    | reset => rfl
    | shutdown => rfl
    | metrics => rfl

/-- And a run is its moves. -/
theorem linked_run (c : ClockedBreaker) (run : List BreakerStep) :
    Linked c.breaker (c.moves run) ∧ c.breaker.afterMoves (c.moves run) = (c.play run).breaker := by
  induction run generalizing c with
  | nil => exact ⟨trivial, rfl⟩
  | cons s rest ih =>
    obtain ⟨hlinked, hafter⟩ := linked_moves c.breaker (c.step s).now s.acts
    obtain ⟨hrest, hlast⟩ := ih (c.step s)
    rw [foldl_acts] at hafter
    refine ⟨linked_append.mpr ⟨hlinked, by rw [hafter]; exact hrest⟩, ?_⟩
    show c.breaker.afterMoves (c.breaker.moves (c.step s).now s.acts ++ (c.step s).moves rest) = _
    unfold Breaker.afterMoves at hafter hlast ⊢
    rw [List.foldl_append, hafter]
    exact hlast

end ClockedBreaker

/-! ## What an act does to the figures -/

namespace BreakerMove

variable {m : BreakerMove}

/-- What the figures are after an act, by those before it. -/
structure Entered (m : BreakerMove) : Prop where
  sound : m.after.Sound
  threshold : m.after.threshold = m.before.threshold
  consecutive : m.after.consecutive =
    if m.startsOver then 0 else m.before.consecutive + if m.act = .failure then 1 else 0
  activations : m.after.activations = m.before.activations + if m.activates then 1 else 0
  failures : m.after.totalFailures = m.before.totalFailures + if m.act = .failure then 1 else 0
  successes : m.after.totalSuccesses = m.before.totalSuccesses + if m.act = .success then 1 else 0
  reaches : m.activates = true → m.act = .failure ∧ m.before.threshold.toNat ≤ m.after.consecutive
  /-- A failure that leaves the breaker inactive is below the threshold, and so is what starts over. -/
  below : m.after.active = false → m.after.consecutive < max 1 m.before.threshold.toNat ∨
    m.before.active = false ∧ m.after.consecutive = m.before.consecutive

theorem entered_failure {b : Breaker} (h : b.Sound) (now : Nat) : Entered ⟨now, .failure, b⟩ := by
  obtain ⟨hcount, hcases⟩ := b.recordFailure_cases now
  have htotals := b.recordFailure_totals now
  have hactivates : (⟨now, .failure, b⟩ : BreakerMove).activates = (!b.active && (b.recordFailure now).active) := rfl
  refine ⟨h.recordFailure now, (b.recordFailure_like now).threshold, hcount, ?_, htotals.failures, htotals.successes,
    fun hact => ⟨rfl, ?_⟩, fun hinactive => .inl ?_⟩
  · show (b.recordFailure now).activations = _
    rcases hcases with ⟨hinactive, -, hactive, hmore⟩ | ⟨-, hsame, hsameActivations⟩
    · rw [hactivates, hinactive, hactive, hmore]
      rfl
    · rw [hactivates, hsame, hsameActivations, Bool.not_and_self]
      rfl
  · rcases hcases with ⟨-, hreaches, -⟩ | ⟨-, hsame, -⟩
    · rw [← hcount] at hreaches
      exact hreaches
    · rw [hactivates, hsame, Bool.not_and_self] at hact
      exact absurd hact (by simp)
  · show (b.recordFailure now).consecutive < _
    have hinactive : (b.recordFailure now).active = false := hinactive
    rcases hcases with ⟨-, -, hactive, -⟩ | ⟨hactive | hlt, hsame, -⟩
    · exact absurd hactive (by simp [hinactive])
    · rw [hsame, hactive] at hinactive
      exact absurd hinactive (by simp)
    · rw [hcount]
      exact Nat.lt_of_lt_of_le hlt (Nat.le_max_right _ _)

theorem entered_success {b : Breaker} (h : b.Sound) (now : Nat) : Entered ⟨now, .success, b⟩ where
  sound := h.recordSuccess
  threshold := rfl
  consecutive := rfl
  activations := by simp [activates, after, Breaker.undergo, Breaker.recordSuccess]
  failures := rfl
  successes := rfl
  reaches := by simp [activates, after, Breaker.undergo, Breaker.recordSuccess]
  below := fun _ => .inl (Nat.lt_of_lt_of_le Nat.one_pos (Nat.le_max_left _ _))

theorem entered_reset {b : Breaker} (h : b.Sound) (now : Nat) : Entered ⟨now, .reset, b⟩ := by
  obtain ⟨hidle, hzero⟩ := Breaker.reset_idle h.sleeping
  have htotals := b.reset_sameTotals
  have hactivates : (⟨now, .reset, b⟩ : BreakerMove).activates = false := by
    show (!b.active && b.reset.active) = false
    rw [hidle.active, Bool.and_false]
  refine ⟨h.reset, b.reset_like.threshold, hzero, ?_, htotals.failures, htotals.successes, fun hact => ?_,
    fun _ => .inl ?_⟩
  · rw [hactivates]
    exact b.reset_activations
  · rw [hactivates] at hact
    exact absurd hact (by simp)
  · show b.reset.consecutive < _
    rw [hzero]
    exact Nat.lt_of_lt_of_le Nat.one_pos (Nat.le_max_left _ _)

theorem entered_shutdown {b : Breaker} (h : b.Sound) (now : Nat) : Entered ⟨now, .shutdown, b⟩ := by
  have hafter : (⟨now, .shutdown, b⟩ : BreakerMove).after = { b with sleeping := [], held := none } := h.shutdown_eq
  have hactivates : (⟨now, .shutdown, b⟩ : BreakerMove).activates = false := by
    show (!b.active && (⟨now, .shutdown, b⟩ : BreakerMove).after.active) = false
    rw [hafter, Bool.not_and_self]
  refine ⟨h.shutdown, ?_, ?_, ?_, ?_, ?_, fun hact => ?_, fun hinactive => .inr ⟨?_, ?_⟩⟩
  · rw [hafter]
  · rw [hafter]
    rfl
  · rw [hafter, hactivates]
    rfl
  · rw [hafter]
    rfl
  · rw [hafter]
    rfl
  · rw [hactivates] at hact
    exact absurd hact (by simp)
  · rw [hafter] at hinactive
    exact hinactive
  · rw [hafter]

theorem entered_expiry {b : Breaker} (h : b.Sound) (now : Nat) : Entered ⟨now, .expiry, b⟩ := by
  have htotals := b.expire_sameTotals now
  have hthreshold := (b.expire_like now).threshold
  have hactivations := b.expire_activations now
  have hactivates : (⟨now, .expiry, b⟩ : BreakerMove).activates = (!b.active && (b.expire now).active) := rfl
  have hover : (⟨now, .expiry, b⟩ : BreakerMove).startsOver = (b.active && !(b.expire now).active) := rfl
  rcases h.expire_cases now with hsame | ⟨hactive, hidle, hzero⟩
  · rw [hsame, Bool.not_and_self] at hactivates
    rw [hsame, Bool.and_not_self] at hover
    refine ⟨h.expire now, hthreshold, ?_, ?_, htotals.failures, htotals.successes, fun hact => ?_,
      fun hinactive => .inr ⟨?_, ?_⟩⟩
    · rw [hover]
      exact congrArg Breaker.consecutive hsame
    · rw [hactivates]
      exact hactivations
    · rw [hactivates] at hact
      exact absurd hact (by simp)
    · rw [← hsame]
      exact hinactive
    · exact congrArg Breaker.consecutive hsame
  · rw [hidle.active, Bool.and_false] at hactivates
    rw [hidle.active, hactive] at hover
    refine ⟨h.expire now, hthreshold, ?_, ?_, htotals.failures, htotals.successes, fun hact => ?_, fun _ => .inl ?_⟩
    · rw [hover]
      exact hzero
    · rw [hactivates]
      exact hactivations
    · rw [hactivates] at hact
      exact absurd hact (by simp)
    · show (b.expire now).consecutive < _
      rw [hzero]
      exact Nat.lt_of_lt_of_le Nat.one_pos (Nat.le_max_left _ _)

/-- Every act on a sound breaker is entered in its figures. -/
theorem entered (h : m.before.Sound) : m.Entered := by
  obtain ⟨now, act, b⟩ := m
  cases act with
  | failure => exact entered_failure h now
  | success => exact entered_success h now
  | reset => exact entered_reset h now
  | shutdown => exact entered_shutdown h now
  | expiry => exact entered_expiry h now

end BreakerMove

/-! ## Accounts -/

/-- The breaker `b` with some threshold is what the moves so far call for. -/
structure Accounts (threshold : UInt32) (past : List BreakerMove) (b : Breaker) : Prop where
  sound : b.Sound
  threshold_eq : b.threshold = threshold
  below : b.active = false → b.consecutive < max 1 threshold.toNat
  consecutive : b.consecutive = failuresInARow past
  activations : b.activations = past.countP (·.activates)
  failures : b.totalFailures = past.countP (·.act = .failure)
  successes : b.totalSuccesses = past.countP (·.act = .success)
  reaches : ∀ m ∈ past, m.activates = true → m.act = .failure ∧ threshold.toNat ≤ m.after.consecutive

namespace Accounts

variable {threshold : UInt32} {past moves : List BreakerMove} {m : BreakerMove} {b : Breaker}

theorem fresh (name : String) (settings : BreakerSettings) (timed : Bool) (clock : Clock) :
    Accounts settings.failureThreshold [] (.new name settings timed clock) where
  sound := Breaker.sound_new name settings timed clock
  threshold_eq := rfl
  below := fun _ => Nat.lt_of_lt_of_le Nat.one_pos (Nat.le_max_left _ _)
  consecutive := rfl
  activations := rfl
  failures := rfl
  successes := rfl
  reaches := List.forall_mem_nil _

/-- One act more. -/
theorem concat (h : Accounts threshold past m.before) : Accounts threshold (past ++ [m]) m.after := by
  have hentered := BreakerMove.entered h.sound
  have hthreshold := h.threshold_eq
  refine ⟨hentered.sound, hentered.threshold.trans hthreshold, fun hinactive => ?_, ?_, ?_, ?_, ?_,
    fun other hother => ?_⟩
  · rcases hentered.below hinactive with hbelow | ⟨hbefore, hsame⟩
    · rw [← hthreshold]
      exact hbelow
    · rw [hsame]
      exact h.below hbefore
  · rw [failuresInARow_concat, hentered.consecutive, h.consecutive]
  · rw [List.countP_append, List.countP_singleton, hentered.activations, h.activations]
  · rw [List.countP_append, List.countP_singleton, hentered.failures, h.failures]
    simp
  · rw [List.countP_append, List.countP_singleton, hentered.successes, h.successes]
    simp
  · rcases List.mem_append.mp hother with hold | hnew
    · exact h.reaches other hold
    · obtain rfl := List.mem_singleton.mp hnew
      rw [← hthreshold]
      exact hentered.reaches

/-- Any number of acts more. -/
theorem append (h : Accounts threshold past b) (hlinked : Linked b moves) :
    Accounts threshold (past ++ moves) (b.afterMoves moves) := by
  induction moves generalizing past b with
  | nil =>
    rw [List.append_nil]
    exact h
  | cons m rest ih =>
    obtain ⟨rfl, hrest⟩ := hlinked
    have hlater := ih h.concat hrest
    rw [List.append_assoc, List.singleton_append] at hlater
    exact hlater

end Accounts

namespace ClockedBreaker

/-- **What the figures of a breaker say.** Take any run of a new breaker on any clock, whether timers can run or
not, and any number of its single acts, fewer failures and fewer successes among them than 64 bits can count. Then

* after all acts of the run the breaker is the one that the run ends with;
* an inactive breaker has fewer failures in a row than the threshold, or none if the threshold is zero;
* it has as many failures in a row as there were since the last success, the last reset and the last end of a cooldown;
* it has a time of activation if and only if it is active, and a timer of the breaker sleeps only while it is active;
* each activation was by a failure that took the failures in a row to the threshold at least;
* it has counted as many activations as there were, and all failures and all successes. -/
theorem moves_account (name : String) (settings : BreakerSettings) (timed : Bool) (clock : Clock)
    (run : List BreakerStep) (past : List BreakerMove) (hpast : past <+: (new name settings timed clock).moves run)
    (hfailures : past.countP (·.act = .failure) < UInt64.size)
    (hsuccesses : past.countP (·.act = .success) < UInt64.size) :
    let b := (Breaker.new name settings timed clock).afterMoves past
    let figures := b.metrics
    let threshold := settings.failureThreshold.toNat
    (past = (new name settings timed clock).moves run → b = ((new name settings timed clock).play run).breaker) ∧
      (figures.active = false → figures.consecutiveFailures.toNat < max 1 threshold) ∧
      figures.consecutiveFailures.toNat = failuresInARow past ∧
      (figures.activatedAt.isSome = true ↔ figures.active = true) ∧
      (b.sleeping ≠ [] ∨ b.held ≠ none → figures.active = true) ∧
      (∀ m ∈ past, m.activates = true → m.act = .failure ∧ threshold ≤ m.after.consecutive) ∧
      figures.activationCount.toNat = past.countP (·.activates) ∧
      figures.totalFailures.toNat = past.countP (·.act = .failure) ∧
      figures.totalSuccesses.toNat = past.countP (·.act = .success) := by
  intro b figures threshold
  obtain ⟨hlinked, hlast⟩ := linked_run (new name settings timed clock) run
  obtain ⟨rest, hrest⟩ := hpast
  rw [← hrest, linked_append] at hlinked
  have haccounts : Accounts settings.failureThreshold past b :=
    (Accounts.fresh name settings timed clock).append hlinked.1
  -- Nothing that is counted is more than the failures, but for the successes.
  have hactivations : past.countP (·.activates) ≤ past.countP (·.act = .failure) :=
    List.countP_mono_left fun m hm hact => decide_eq_true (haccounts.reaches m hm hact).1
  have hrow : failuresInARow past ≤ past.countP (·.act = .failure) := by
    rw [← List.countP_reverse]
    exact (List.takeWhile_sublist _).countP_le
  have hnat : ∀ {n : Nat}, n ≤ past.countP (·.act = .failure) → n.toUInt64.toNat = n :=
    fun hle => UInt64.toNat_ofNat_of_lt' (Nat.lt_of_le_of_lt hle hfailures)
  have hconsecutive : figures.consecutiveFailures.toNat = failuresInARow past := by
    show b.consecutive.toUInt64.toNat = _
    rw [haccounts.consecutive, hnat hrow]
  refine ⟨?_, ?_, hconsecutive, haccounts.sound.isSome_activatedAt_iff, ?_, haccounts.reaches, ?_, ?_, ?_⟩
  · rintro rfl
    exact hlast
  · intro hinactive
    rw [hconsecutive, ← haccounts.consecutive]
    exact haccounts.below hinactive
  · intro htimer
    by_contra hinactive
    have hidle := haccounts.sound.idle (Bool.not_eq_true _ ▸ hinactive)
    rcases htimer with hsleeping | hheld
    · exact hsleeping hidle.sleeping
    · exact hheld hidle.held
  · show b.activations.toUInt64.toNat = _
    rw [haccounts.activations, hnat hactivations]
  · show b.totalFailures.toUInt64.toNat = _
    rw [haccounts.failures, hnat (Nat.le_refl _)]
  · show b.totalSuccesses.toUInt64.toNat = _
    rw [haccounts.successes, UInt64.toNat_ofNat_of_lt' hsuccesses]

/-- Three failures, of which the second activates; a cooldown that comes to its end; a success between two failures. -/
def recoveringRun : List BreakerStep :=
  [.command (.failure 3), .sleep 30000, .command (.failure 1), .command (.success 1), .command (.failure 1)]

/-- Five failures and one success, one activation, and one failure since the success. -/
theorem moves_account_recoveringRun :
    let past := (new "rpc" ⟨2, 30⟩ true).moves recoveringRun
    let figures := ((new "rpc" ⟨2, 30⟩ true).play recoveringRun).breaker.metrics
    past.countP (·.act = .failure) < UInt64.size ∧ past.countP (·.act = .success) < UInt64.size ∧
      figures.consecutiveFailures.toNat = 1 ∧ figures.activationCount.toNat = 1 ∧ figures.totalFailures.toNat = 5 ∧
      figures.totalSuccesses.toNat = 1 := by
  intro past figures
  have hfailures : past.countP (·.act = .failure) = 5 := by decide
  have hsuccesses : past.countP (·.act = .success) = 1 := by decide
  obtain ⟨hlast, -, hconsecutive, -, -, -, hactivations, htotalFailures, htotalSuccesses⟩ :=
    moves_account "rpc" ⟨2, 30⟩ true .short recoveringRun past (List.prefix_refl _) (by rw [hfailures]; decide)
      (by rw [hsuccesses]; decide)
  rw [hlast rfl] at hconsecutive hactivations htotalFailures htotalSuccesses
  refine ⟨by rw [hfailures]; decide, by rw [hsuccesses]; decide, ?_, ?_, htotalFailures.trans hfailures,
    htotalSuccesses.trans hsuccesses⟩
  · exact hconsecutive.trans (by decide)
  · exact hactivations.trans (by decide)

end ClockedBreaker

end Failsafe
