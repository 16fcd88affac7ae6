import Failsafe.Breaker

/-!
# What a breaker has counted

A breaker counts successes, failures and activations, and never takes any of them back. Only `recordSuccess` and
`recordFailure` count; timers, resets and shutdowns leave the numbers as they are.
-/

namespace Failsafe

namespace Breaker

/-- The two breakers have counted the same in all. -/
structure SameTotals (b b' : Breaker) : Prop where
  successes : b'.totalSuccesses = b.totalSuccesses
  failures : b'.totalFailures = b.totalFailures

theorem SameTotals.refl (b : Breaker) : SameTotals b b := ⟨rfl, rfl⟩

theorem SameTotals.trans {b b' b'' : Breaker} (h : SameTotals b b') (h' : SameTotals b' b'') : SameTotals b b'' :=
  ⟨h'.successes.trans h.successes, h'.failures.trans h.failures⟩

theorem wake_sameTotals (b : Breaker) (timer : CooldownTimer) : SameTotals b (b.wake timer) := by
  unfold wake
  dsimp only
  split <;> exact ⟨rfl, rfl⟩

theorem expire_sameTotals (b : Breaker) (now : Nat) : SameTotals b (b.expire now) := by
  unfold expire
  suffices h : ∀ (timers : List CooldownTimer) (b : Breaker), SameTotals b (timers.foldl wake b) from h _ b
  intro timers
  induction timers with
  | nil => exact .refl
  | cons timer timers ih => exact fun b => (wake_sameTotals b timer).trans (ih _)

theorem foldl_expire_sameTotals (b : Breaker) (times : List Nat) : SameTotals b (times.foldl expire b) := by
  induction times generalizing b with
  | nil => exact .refl b
  | cons time times ih => exact (expire_sameTotals b time).trans (ih _)

theorem startTimer_sameTotals (b : Breaker) (now : Nat) : SameTotals b (b.startTimer now) := by
  unfold startTimer callOff
  split
  · dsimp only
    split <;> exact ⟨rfl, rfl⟩
  · exact .refl b

/-- A failure is counted once, whether it activates the breaker or not. -/
theorem recordFailure_totals (b : Breaker) (now : Nat) :
    SameTotals { b with totalFailures := b.totalFailures + 1 } (b.recordFailure now) := by
  unfold recordFailure
  dsimp only
  split
  · have htimer := startTimer_sameTotals
      { b with
        totalFailures := b.totalFailures + 1, consecutive := b.consecutive + 1, active := true,
        activatedAt := some now, activations := b.activations + 1, generation := b.generation + 1 } now
    exact ⟨htimer.successes, htimer.failures⟩
  · exact ⟨rfl, rfl⟩

theorem callOff_sameTotals (b : Breaker) : SameTotals b b.callOff := by
  unfold callOff
  split <;> exact ⟨rfl, rfl⟩

theorem reset_sameTotals (b : Breaker) : SameTotals b b.reset :=
  ⟨(callOff_sameTotals { b with generation := b.generation + 1 }).successes,
    (callOff_sameTotals { b with generation := b.generation + 1 }).failures⟩

/-! ## Activations -/

theorem callOff_activations (b : Breaker) : b.callOff.activations = b.activations := by
  unfold callOff
  split <;> rfl

theorem wake_activations (b : Breaker) (timer : CooldownTimer) : (b.wake timer).activations = b.activations := by
  unfold wake
  dsimp only
  split <;> rfl

theorem expire_activations (b : Breaker) (now : Nat) : (b.expire now).activations = b.activations := by
  unfold expire
  suffices h : ∀ (timers : List CooldownTimer) (b : Breaker), (timers.foldl wake b).activations = b.activations from
    h _ b
  intro timers
  induction timers with
  | nil => exact fun _ => rfl
  | cons timer timers ih => exact fun b => (ih _).trans (wake_activations b timer)

theorem reset_activations (b : Breaker) : b.reset.activations = b.activations :=
  callOff_activations { b with generation := b.generation + 1 }

/-- A failure activates the breaker once at most. -/
theorem recordFailure_activations (b : Breaker) (now : Nat) :
    b.activations ≤ (b.recordFailure now).activations ∧ (b.recordFailure now).activations ≤ b.activations + 1 := by
  unfold recordFailure
  dsimp only
  split
  · have htimer : ∀ b : Breaker, (b.startTimer now).activations = b.activations := by
      intro b
      unfold startTimer
      split
      · exact callOff_activations b
      · rfl
    unfold activate
    dsimp only
    rw [htimer]
    exact ⟨Nat.le_succ _, Nat.le_refl _⟩
  · exact ⟨Nat.le_refl _, Nat.le_succ _⟩

end Breaker

end Failsafe
