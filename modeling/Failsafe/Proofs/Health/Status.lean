import Failsafe.Proofs.Health.Evolution
import Failsafe.Proofs.Health.Reasons

/-!
# What a status is made of

The fields of a status hang together (`ComponentStatus.Coherent`): a component that is not running is degraded, one that
is degraded is not healthy, and one that is not healthy has a reason. The calls to a registry rewrite these fields one
by one, and the restart of a component in two halves with other calls between them; each half and each call leaves a
coherent status coherent (`coherent_after`), and no call changes a priority (`priority_after`).

Here a call is over at once, up to the restart handler that it may wait for. When the accesses of one call come between
those of another, a component may be unhealthy and have no reason.
-/

namespace Failsafe

namespace ComponentStatus

/-- A component that is not running is degraded, and one that is degraded is not healthy. -/
structure Graded (s : ComponentStatus) : Prop where
  degraded : s.degraded = true → s.healthy = false
  inactive : s.active = false → s.degraded = true

/-- The fields of the status do not contradict each other, and what is held against the component has a reason. -/
structure Coherent (s : ComponentStatus) : Prop extends s.Graded where
  unhealthy : s.healthy = false → s.reason.isSome = true

theorem coherent_fresh (name : String) (priority : Priority) : (fresh name priority).Coherent := ⟨⟨nofun, nofun⟩, nofun⟩

theorem coherent_degrade (s : ComponentStatus) (reason : String) : (s.degrade reason).Coherent :=
  ⟨⟨fun _ => rfl, fun _ => rfl⟩, fun _ => rfl⟩

theorem coherent_disable (s : ComponentStatus) (reason : String) : (s.disable reason).Coherent :=
  ⟨⟨fun _ => rfl, fun _ => rfl⟩, fun _ => rfl⟩

theorem coherent_revive (s : ComponentStatus) : s.revive.Coherent := ⟨⟨nofun, nofun⟩, nofun⟩

theorem coherent_reset (s : ComponentStatus) : s.reset.Coherent := ⟨⟨nofun, nofun⟩, nofun⟩

theorem Graded.countFailure {s : ComponentStatus} (h : s.Graded) (reason : String) :
    (s.countFailure reason).Graded := ⟨h.degraded, h.inactive⟩

theorem Coherent.countFailure {s : ComponentStatus} (h : s.Coherent) (reason : String) :
    (s.countFailure reason).Coherent := ⟨h.toGraded.countFailure reason, fun _ => rfl⟩

/-- Between the two halves of a report the component is not healthy, and the reason has been given. -/
theorem Coherent.markDown {s : ComponentStatus} (h : s.Coherent) (reason : String) :
    (s.markDown reason).Coherent := ⟨⟨fun _ => rfl, h.inactive⟩, fun _ => rfl⟩

theorem Coherent.reported {s : ComponentStatus} (h : s.Coherent) (reason : String) (isCritical : Bool) :
    (s.reported reason isCritical).Coherent := by
  unfold ComponentStatus.reported
  split
  · exact h.countFailure reason
  · split
    · exact coherent_disable _ reason
    · split
      · exact coherent_degrade _ reason
      · exact h.countFailure reason
    · exact h.markDown reason
    · exact h.markDown reason

theorem coherent_restartEnded (s : ComponentStatus) (redactor : Redactor) (result : Except String Unit) :
    (s.restartEnded redactor result).Coherent := by
  unfold restartEnded
  cases result with
  | ok _ => exact s.coherent_revive
  | error text => exact s.coherent_degrade _

/-- The status is that of the same component, with some more errors counted. -/
structure Continues (s : ComponentStatus) (errors : Nat) (s' : ComponentStatus) : Prop where
  name : s'.name = s.name
  priority : s'.priority = s.priority
  errorCount : s'.errorCount = s.errorCount + errors.toUInt64

theorem Continues.of_same {s s' : ComponentStatus} (hname : s'.name = s.name) (hpriority : s'.priority = s.priority)
    (hcount : s'.errorCount = s.errorCount) : s.Continues 0 s' :=
  ⟨hname, hpriority, hcount.trans (UInt64.add_zero _).symm⟩

theorem continues_reported (s : ComponentStatus) (reason : String) (isCritical : Bool) :
    s.Continues 1 (s.reported reason isCritical) := by
  unfold reported
  split
  · exact ⟨rfl, rfl, rfl⟩
  · split
    · exact ⟨rfl, rfl, rfl⟩
    · split <;> exact ⟨rfl, rfl, rfl⟩
    · exact ⟨rfl, rfl, rfl⟩
    · exact ⟨rfl, rfl, rfl⟩

/-- What becomes of a status when a call has it in hand: nothing, or the component runs well again, or it is degraded or
disabled and the reason is given in the same breath. -/
inductive Settles (s : ComponentStatus) : ComponentStatus → Prop
  | same : s.Settles s
  | revived : s.Settles s.revive
  | degraded (reason : String) : s.Settles (s.degrade reason)
  | disabled (reason : String) : s.Settles (s.disable reason)

namespace Settles

variable {s s' : ComponentStatus}

theorem continues (h : s.Settles s') : s.Continues 0 s' := by
  cases h <;> exact .of_same rfl rfl rfl

theorem eq_or_coherent (h : s.Settles s') : s' = s ∨ s'.Coherent := by
  cases h with
  | same => exact .inl rfl
  | revived => exact .inr (coherent_revive s)
  | degraded reason => exact .inr (coherent_degrade s reason)
  | disabled reason => exact .inr (coherent_disable s reason)

/-- No reason is taken away. -/
theorem reason (h : s.Settles s') (hs : s.reason.isSome = true) : s'.reason.isSome = true := by
  cases h with
  | same => exact hs
  | revived => exact hs
  | degraded reason => rfl
  | disabled reason => rfl

end Settles

end ComponentStatus

open ComponentStatus

namespace SharedRegistry

open Registry

variable {s : SharedRegistry} {name : String} {c : Component}

/-! ## One call -/

theorem coherent_after (hc : c.status.Coherent) (call : RegistryCall) : (s.after c call).Coherent := by
  unfold after
  cases call with
  | report name error isCritical =>
    dsimp only
    split
    · unfold Component.afterReport
      dsimp only
      split
      · exact coherent_revive _
      · exact hc.reported _ _
    · exact hc
  | restartEnded index result =>
    dsimp only
    split
    · exact coherent_restartEnded _ _ result
    · exact hc
  | reset name =>
    dsimp only
    split
    · exact coherent_reset _
    · exact hc
  | disablePriority priority reason =>
    dsimp only
    split
    · exact coherent_disable _ reason
    · exact hc
  | _ => exact hc

theorem priority_after (s : SharedRegistry) (c : Component) (call : RegistryCall) :
    (s.after c call).priority = c.status.priority := by
  unfold after
  cases call with
  | report name error isCritical =>
    have hreported := c.status.continues_reported (s.registry.redactor.text error) isCritical
    dsimp only
    split
    · unfold Component.afterReport
      dsimp only
      split
      · exact hreported.priority
      · exact hreported.priority
    · rfl
  | restartEnded index result =>
    dsimp only
    split
    · cases result <;> rfl
    · rfl
  | reset name =>
    dsimp only
    split <;> rfl
  | disablePriority priority reason =>
    dsimp only
    split <;> rfl
  | _ => rfl

/-! ## Runs -/

theorem play_append (s : SharedRegistry) (calls more : List RegistryCall) :
    s.play (calls ++ more) = (s.play calls).play more := List.foldl_append

/-- While calls are over at once, but for the restarts that they wait for, every status is coherent. -/
theorem coherent_play (resources : ResourceSettings) (redactor : Redactor) (calls : List RegistryCall)
    (h : ((new resources redactor).play calls).registry.find? name = some c) : c.status.Coherent := by
  induction calls using List.reverseRecOn generalizing c with
  | nil => exact absurd h nofun
  | append_singleton calls call ih =>
    rw [play_concat] at h
    rcases find?_of_step h with ⟨-, priority, restart, -, rfl⟩ | ⟨c', hbefore, rfl⟩
    · exact coherent_fresh name priority
    · exact coherent_after (ih hbefore) call

/-- A report waits for the restart of a component that is registered, with one of the two upper priorities. -/
theorem exists_of_mem_waiting (resources : ResourceSettings) (redactor : Redactor) (calls : List RegistryCall) :
    ∀ report ∈ ((new resources redactor).play calls).waiting, ∃ c,
      ((new resources redactor).play calls).registry.find? report.component = some c ∧
        (c.status.priority = .high ∨ c.status.priority = .critical) := by
  induction calls using List.reverseRecOn with
  | nil => exact fun report h => absurd h List.not_mem_nil
  | append_singleton calls call ih =>
    intro report hreport
    rw [play_concat] at hreport ⊢
    have hbefore : ∃ c, ((new resources redactor).play calls).registry.find? report.component = some c ∧
        (c.status.priority = .high ∨ c.status.priority = .critical) := by
      rcases mem_waiting_step hreport with hwaited | ⟨c, hfind, hawaits⟩
      · exact ih report hwaited
      · refine ⟨c, hfind, ?_⟩
        unfold Component.awaits at hawaits
        split at hawaits
        · next hrestarts =>
          unfold ComponentStatus.restarts at hrestarts
          simpa using (Bool.and_eq_true_iff.mp hrestarts).2
        · exact absurd hawaits List.not_mem_nil
    -- Neither is a name given up nor a priority changed.
    obtain ⟨c, hfind, hpriority⟩ := hbefore
    refine ⟨_, find?_step hfind call, ?_⟩
    show (after _ c call).priority = .high ∨ (after _ c call).priority = .critical
    rw [priority_after]
    exact hpriority

end SharedRegistry

end Failsafe
