import Failsafe.Proofs.Health.Shared

/-!
# How long a component stays down

A component that is degraded or disabled is down. Two kinds of calls bring it back: its reset, and the
successful end of a restart that was begun before it went down. A restart writes the whole health of the
component when it ends, whatever has become of the component since it began.

So whether a component stays down until its reset is a matter of the reports that wait at the moment. None can
come in while it is down, since a report on a component that is down restarts nothing (`awaits_of_isDown`).
Hence (`stays_down_iff`) it stays down through every further run of calls without its reset if and only if no
report on it waits.

What the calls keep is `ComponentStatus.Sound`: whoever takes a component out of service also marks it
degraded.
-/

namespace Failsafe

namespace ComponentStatus

/-- A component that is not running is degraded. -/
def Sound (s : ComponentStatus) : Prop := s.active = false → s.degraded = true

/-- As far down as before: degraded, and not running again. -/
structure DownAs (s s' : ComponentStatus) : Prop where
  degraded : s'.degraded = true
  inactive : s.active = false → s'.active = false

theorem degraded_of_isDown {s : ComponentStatus} (hs : s.Sound) (hdown : s.isDown = true) :
    s.degraded = true := by
  unfold isDown at hdown
  rw [Bool.or_eq_true, Bool.not_eq_true'] at hdown
  exact hdown.elim id hs

theorem DownAs.isDown {s s' : ComponentStatus} (h : DownAs s s') : s'.isDown = true := by
  unfold ComponentStatus.isDown
  rw [h.degraded, Bool.true_or]

theorem DownAs.trans {s s' s'' : ComponentStatus} (h : DownAs s s') (h' : DownAs s' s'') : DownAs s s'' :=
  ⟨h'.degraded, fun hactive => h'.inactive (h.inactive hactive)⟩

theorem sound_fresh (name : String) (priority : Priority) : (fresh name priority).Sound :=
  fun h => absurd h (by simp [fresh])

theorem sound_reported {s : ComponentStatus} (hs : s.Sound) (reason : String) (isCritical : Bool) :
    (s.reported reason isCritical).Sound := by
  unfold reported
  split
  · exact hs
  · split
    · exact fun _ => rfl
    · split
      · exact fun _ => rfl
      · exact hs
    · exact hs
    · exact hs

theorem sound_restartEnded (s : ComponentStatus) (redactor : Redactor) (result : Except String Unit) :
    (s.restartEnded redactor result).Sound := by
  unfold restartEnded
  cases result with
  | ok _ => exact fun h => absurd h (by simp [revive])
  | error text => exact fun _ => rfl

end ComponentStatus

open ComponentStatus

/-- A component that is down waits for no handler. -/
theorem awaits_of_isDown {c : Component} (h : c.status.isDown = true) : c.awaits = [] := by
  unfold Component.awaits restarts
  simp [h]

theorem afterReport_of_isDown {c : Component} (h : c.status.isDown = true) (reason : String)
    (isCritical : Bool) : c.afterReport reason isCritical = c.status.countFailure reason := by
  unfold Component.afterReport restarts reported
  simp [h]

theorem sound_afterReport {c : Component} (hs : c.status.Sound) (reason : String) (isCritical : Bool) :
    (c.afterReport reason isCritical).Sound := by
  unfold Component.afterReport
  dsimp only
  split
  · exact fun h => absurd h (by simp [revive])
  · exact sound_reported hs reason isCritical

namespace SharedRegistry

open Registry

variable {s : SharedRegistry} {name : String} {c : Component}

/-- A call that brings a component back: its reset, or the success of a restart that was begun. -/
def bringsBack (s : SharedRegistry) (name : String) : RegistryCall → Bool
  | .reset name' => name' = name
  | .restartEnded index (.ok _) => s.waiting[index]?.any (·.component = name)
  | _ => false

theorem sound_after (hs : c.status.Sound) (call : RegistryCall) : (s.after c call).Sound := by
  unfold after
  cases call with
  | report name error isCritical =>
    dsimp only
    split
    · exact sound_afterReport hs _ _
    · exact hs
  | restartEnded index result =>
    dsimp only
    split
    · exact sound_restartEnded _ _ _
    · exact hs
  | reset name =>
    dsimp only
    split
    · exact fun h => absurd h (by simp [ComponentStatus.reset, revive])
    · exact hs
  | disablePriority priority reason =>
    dsimp only
    split
    · exact fun _ => rfl
    · exact hs
  | _ => exact hs

/-- Every other call leaves a component that is down as far down as it was. -/
theorem downAs_after (hs : c.status.Sound) (hdown : c.status.isDown = true) {call : RegistryCall}
    (hcall : s.bringsBack c.status.name call = false) : DownAs c.status (s.after c call) := by
  have hdegraded := degraded_of_isDown hs hdown
  unfold after
  unfold bringsBack at hcall
  cases call with
  | report name error isCritical =>
    dsimp only
    split
    · rw [afterReport_of_isDown hdown]
      exact ⟨hdegraded, id⟩
    · exact ⟨hdegraded, id⟩
  | restartEnded index result =>
    cases result with
    | ok _ =>
      dsimp only at hcall ⊢
      rw [if_neg (by simpa using hcall)]
      exact ⟨hdegraded, id⟩
    | error text =>
      dsimp only
      split
      · exact ⟨rfl, id⟩
      · exact ⟨hdegraded, id⟩
  | reset name =>
    dsimp only at hcall ⊢
    rw [if_neg (by simpa using hcall)]
    exact ⟨hdegraded, id⟩
  | disablePriority priority reason =>
    dsimp only
    split
    · exact ⟨rfl, fun _ => rfl⟩
    · exact ⟨hdegraded, id⟩
  | _ => exact ⟨hdegraded, id⟩

theorem isDown_after_of_bringsBack {call : RegistryCall} (hcall : s.bringsBack c.status.name call = true) :
    (s.after c call).isDown = false := by
  unfold bringsBack at hcall
  unfold after
  cases call with
  | reset name =>
    dsimp only at hcall ⊢
    rw [if_pos (by simpa using hcall)]
    rfl
  | restartEnded index result =>
    cases result with
    | ok _ =>
      dsimp only at hcall ⊢
      rw [if_pos hcall]
      rfl
    | error text => simp at hcall
  | _ => simp at hcall

/-! ## Runs -/

/-- Every component of the registry is sound. -/
def Sound (s : SharedRegistry) : Prop := ∀ name c, s.registry.find? name = some c → c.status.Sound

theorem sound_new (resources : ResourceSettings) (redactor : Redactor) : (new resources redactor).Sound :=
  fun _ _ h => absurd h (by simp [new, Registry.new, Registry.find?])

theorem sound_step (hs : s.Sound) (call : RegistryCall) : (s.step call).Sound := by
  intro name c hfind
  rcases find?_of_step hfind with ⟨-, priority, restart, -, rfl⟩ | ⟨c', hbefore, rfl⟩
  · exact sound_fresh name priority
  · exact sound_after (hs name c' hbefore) call

theorem sound_play (hs : s.Sound) (calls : List RegistryCall) : (s.play calls).Sound := by
  induction calls generalizing s with
  | nil => exact hs
  | cons call rest ih => exact ih (sound_step hs call)

/-- While nobody waits for its restart, a component that is down is brought back by its reset alone. -/
theorem stays_down (hs : s.Sound) (hfind : s.registry.find? name = some c) (hdown : c.status.isDown = true)
    (hwaiting : ∀ w ∈ s.waiting, w.component ≠ name) {calls : List RegistryCall}
    (hcalls : ∀ call ∈ calls, call ≠ .reset name) :
    ∃ c', (s.play calls).registry.find? name = some c' ∧ DownAs c.status c'.status := by
  -- What carries the induction is that no report on the component waits: none comes in while it is down.
  induction calls generalizing s c with
  | nil => exact ⟨c, hfind, degraded_of_isDown (hs name c hfind) hdown, id⟩
  | cons call rest ih =>
    have hname := name_of_find? hfind
    have hbringsBack : s.bringsBack c.status.name call = false := by
      rw [hname]
      unfold bringsBack
      split
      · next name' =>
        have := hcalls _ List.mem_cons_self
        simpa using this
      · next index _ =>
        rw [Option.any_eq_false]
        intro w hw
        simpa using hwaiting w (List.mem_of_getElem? hw)
      · rfl
    have hafter := downAs_after (hs name c hfind) hdown hbringsBack
    have hwaiting' : ∀ w ∈ (s.step call).waiting, w.component ≠ name := by
      intro w hw
      rcases mem_waiting_step hw with hw | ⟨c', hfind', hw⟩
      · exact hwaiting w hw
      · rintro rfl
        obtain rfl := Option.some.inj (hfind.symm.trans hfind')
        simp [awaits_of_isDown hdown] at hw
    obtain ⟨c', hfind', hdown'⟩ := ih (sound_step hs call) (find?_step hfind call) hafter.isDown hwaiting'
      (fun call' h => hcalls call' (List.mem_cons_of_mem _ h))
    exact ⟨c', hfind', hafter.trans hdown'⟩

/-- **How long a component stays down.** In every registry that was put to any use, a component is down and
stays so through a call if and only if the call is not its reset and not the success of a restart of it that
was begun before; and it stays down through all runs of calls without its reset if and only if no restart of
it is under way. Calls are over at once here, but for the restart handlers that they wait for. -/
theorem stays_down_iff (resources : ResourceSettings) (redactor : Redactor) (calls : List RegistryCall)
    (hfind : ((new resources redactor).play calls).registry.find? name = some c)
    (hdown : c.status.isDown = true) :
    (∀ call, ∃ c', (((new resources redactor).play calls).step call).registry.find? name = some c' ∧
      (DownAs c.status c'.status ↔ ((new resources redactor).play calls).bringsBack name call = false)) ∧
    ((∀ more : List RegistryCall, (∀ call ∈ more, call ≠ .reset name) →
        ∃ c', (((new resources redactor).play calls).play more).registry.find? name = some c' ∧
          DownAs c.status c'.status) ↔
      ∀ w ∈ ((new resources redactor).play calls).waiting, w.component ≠ name) := by
  have hs := sound_play (sound_new resources redactor) calls
  generalize (new resources redactor).play calls = s at hfind hs
  have hname := name_of_find? hfind
  refine ⟨fun call => ⟨_, find?_step hfind call, ?_, ?_⟩, ?_, ?_⟩
  · intro h
    rw [Bool.eq_false_iff]
    intro hbringsBack
    rw [← hname] at hbringsBack
    exact absurd (h.isDown.symm.trans (isDown_after_of_bringsBack hbringsBack)) (by simp)
  · intro hbringsBack
    rw [← hname] at hbringsBack
    exact downAs_after (hs name c hfind) hdown hbringsBack
  · intro h w hw hcomponent
    obtain ⟨index, hindex⟩ := List.getElem?_of_mem hw
    -- The restart that is under way succeeds next.
    obtain ⟨c', hfind', hdown'⟩ := h [.restartEnded index (.ok ())] (by simp)
    have hbringsBack : s.bringsBack c.status.name (.restartEnded index (.ok ())) = true := by
      simp [bringsBack, hindex, hcomponent, hname]
    obtain rfl := Option.some.inj ((find?_step hfind _).symm.trans hfind')
    exact absurd (hdown'.isDown.symm.trans (isDown_after_of_bringsBack hbringsBack)) (by simp)
  · intro hwaiting more hmore
    exact stays_down hs hfind hdown hwaiting hmore

/-- A component that is disabled while no restart of it is under way stays disabled, whatever comes but its reset. -/
theorem stays_down_iff_disabled :
    let s := (new Settings.default.resources ⟨false⟩).play
      [.register "executor" .high (some 0), .disablePriority .high "halted"]
    ∃ c, s.registry.find? "executor" = some c ∧ c.status.active = false ∧
      ∀ more : List RegistryCall, (∀ call ∈ more, call ≠ .reset "executor") →
        ∃ c', (s.play more).registry.find? "executor" = some c' ∧ DownAs c.status c'.status := by
  intro s
  refine ⟨_, rfl, rfl, ?_⟩
  exact (stays_down_iff Settings.default.resources ⟨false⟩ _ rfl rfl).2.mpr fun w hw => absurd hw List.not_mem_nil

/-- A component that is disabled while its restart is under way is running and not degraded when the restart
ends, without a reset. -/
theorem brought_back_by_restart :
    let s := (new Settings.default.resources ⟨false⟩).play
      [.register "executor" .high (some 0), .report "executor" "lost" true, .disablePriority .high "halted"]
    (s.registry.find? "executor").map (fun c => (c.status.active, c.status.degraded)) = some (false, true) ∧
      ((s.step (.restartEnded 0 (.ok ()))).registry.find? "executor").map
        (fun c => (c.status.active, c.status.degraded)) = some (true, false) := ⟨rfl, rfl⟩

end SharedRegistry

end Failsafe
