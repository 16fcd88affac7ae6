import Failsafe.Proofs.Health.Refresh
import Failsafe.Proofs.Health.Shared
import Failsafe.Proofs.Settings
import Mathlib.Data.List.Induction

/-!
# Whether a snapshot agrees with itself

A snapshot shows a system state beside the components and resources that the state is derived from. The state
is kept, not derived on demand, so the two agree (`HealthSnapshot.SelfConsistent`) only as long as each change
is followed by a refresh.

Of the calls to a registry in shared use one changes a component and does not refresh: the first half of a
report that waits for a restart handler (`SharedRegistry.restartBegun`). The component is down from then on, and
the system state shows that only after the next call that refreshes, `SharedRegistry.refreshes`, which need not be
the end of the restart and may never come if the report is dropped. `selfConsistent_iff` is the exact condition: a
snapshot agrees with itself unless a restart began whose component alone calls for a worse state
(`Priority.alarm`) than the system had, and nothing has refreshed the state since (`SharedRegistry.Stale`). The
state shown is never worse than it should be.
-/

namespace Failsafe

/-! ## What one component calls for -/

/-- The system state that an unhealthy component of a priority calls for. -/
def Priority.alarm : Priority → SystemState
  | .critical => .critical
  | .high => .degraded
  | .medium | .low => .normal

/-- The worse of two states. -/
def SystemState.worst (a b : SystemState) : SystemState := if a.rank ≤ b.rank then b else a

/-- The state of a snapshot is the one that its own components and resources call for. -/
def HealthSnapshot.SelfConsistent (s : HealthSnapshot) : Prop :=
  s.state = deriveState s.components s.resources s.consistent

namespace SystemState

theorem rank_worst (a b : SystemState) : (worst a b).rank = max a.rank b.rank := by
  cases a <;> cases b <;> rfl

theorem eq_of_rank_eq {a b : SystemState} (h : a.rank = b.rank) : a = b := by
  cases a <;> cases b <;> first | rfl | exact absurd h (by decide)

end SystemState

namespace Registry

open SystemState

variable {r : Registry} {name : String} {c : Component}

theorem eq_of_names (hunique : r.UniqueNames) (h : r.find? name = some c) {other : Component}
    (hother : other ∈ r.components) (hname : other.status.name = name) : other = c := by
  refine List.inj_on_of_nodup_map hunique hother (List.mem_of_find?_eq_some h) ?_
  rw [hname, name_of_find? h]

/-- Under its own name a component is found. -/
theorem find?_of_mem (hunique : r.UniqueNames) (h : c ∈ r.components) : r.find? c.status.name = some c := by
  cases hfind : r.find? c.status.name with
  | none => exact absurd (List.mem_map_of_mem h) (not_mem_names_of_find? hfind)
  | some c' => rw [eq_of_names hunique hfind h rfl]

/-- What holds of some status after one status has changed, if the change does not make it false. -/
theorem any_modify {P : ComponentStatus → Bool} {f : ComponentStatus → ComponentStatus} (hunique : r.UniqueNames)
    (h : r.find? name = some c) (hkeeps : P c.status = true → P (f c.status) = true) :
    ((r.modify name f).components.map (·.status)).any P =
      ((r.components.map (·.status)).any P || P (f c.status)) := by
  have hself : (if c.status.name = name then { c with status := f c.status } else c).status = f c.status := by
    rw [if_pos (name_of_find? h)]
  unfold modify
  dsimp only
  rw [List.map_map, List.any_map, List.any_map, Bool.eq_iff_iff, Bool.or_eq_true]
  simp only [List.any_eq_true, Function.comp_apply]
  constructor
  · rintro ⟨other, hother, hP⟩
    by_cases hname : other.status.name = name
    · obtain rfl := eq_of_names hunique h hother hname
      rw [hself] at hP
      exact .inr hP
    · rw [if_neg hname] at hP
      exact .inl ⟨other, hother, hP⟩
  · rintro (⟨other, hother, hP⟩ | hP)
    · refine ⟨other, hother, ?_⟩
      by_cases hname : other.status.name = name
      · obtain rfl := eq_of_names hunique h hother hname
        rw [hself]
        exact hkeeps hP
      · rwa [if_neg hname]
    · refine ⟨c, List.mem_of_find?_eq_some h, ?_⟩
      rwa [hself]

/-- A component that is down because its restart is under way makes the registry call for no more than what
its priority calls for. -/
theorem derive_markDown (hunique : r.UniqueNames) (h : r.find? name = some c) (hrestarts : c.status.restarts = true)
    (reason : String) :
    (r.modify name (·.markDown reason)).derive = worst r.derive c.status.priority.alarm := by
  have hcritical := any_modify (P := fun s => s.priority = .critical && !s.healthy) (f := (·.markDown reason))
    hunique h (by
      intro hdown
      simp only [Bool.and_eq_true, decide_eq_true_eq] at hdown
      simp [ComponentStatus.markDown, ComponentStatus.countFailure, hdown.1])
  have hdegraded := any_modify (P := fun s => (s.priority = .high && !s.healthy) || s.degraded)
    (f := (·.markDown reason)) hunique h (by
      intro hdown
      rw [Bool.or_eq_true, Bool.and_eq_true, decide_eq_true_eq] at hdown
      rcases hdown with ⟨hhigh, -⟩ | hdegraded
      · simp [ComponentStatus.markDown, ComponentStatus.countFailure, hhigh]
      · simp [ComponentStatus.markDown, ComponentStatus.countFailure, hdegraded])
  have hup : c.status.degraded = false := by
    simp only [ComponentStatus.restarts, ComponentStatus.isDown, Bool.and_eq_true, Bool.not_eq_true',
      Bool.or_eq_false_iff] at hrestarts
    exact hrestarts.1.1
  -- Only the two questions about components can have new answers.
  show (if (_ || (r.resources.toList.any fun r => r.level = .critical)) then SystemState.critical
    else if (_ || !r.consistent) then SystemState.degraded else .normal) = worst (deriveState _ _ _) _
  rw [hcritical, hdegraded]
  unfold deriveState
  generalize (r.components.map (·.status)).any (fun s => s.priority = .critical && !s.healthy) = critical
  generalize (r.components.map (·.status)).any (fun s => (s.priority = .high && !s.healthy) || s.degraded) = degraded
  generalize (r.resources.toList.any fun r => r.level = .critical) = scarce
  have hcalls : c.status.priority = .high ∨ c.status.priority = .critical := by
    simp only [ComponentStatus.restarts, Bool.and_eq_true, Bool.or_eq_true, decide_eq_true_eq] at hrestarts
    exact hrestarts.2
  simp only [ComponentStatus.markDown, ComponentStatus.countFailure, hup]
  rcases hcalls with hp | hp
  · rw [hp]
    cases critical <;> cases degraded <;> cases scarce <;> cases r.consistent <;> rfl
  · rw [hp]
    cases critical <;> cases degraded <;> cases scarce <;> cases r.consistent <;> rfl

/-- A registry that has just been made calls for no alarm. -/
theorem state_new {resources : ResourceSettings} (hvalid : resources.validate = .ok ()) (redactor : Redactor) :
    (new resources redactor).state = (new resources redactor).derive := by
  have hlevel : ((new resources redactor).resources.toList.any fun r => r.level = .critical) = false := by
    rw [List.any_eq_false]
    intro constraint hmem
    obtain ⟨kind, -, rfl⟩ := List.mem_map.mp hmem
    have := ResourceSettings.level_of_validate hvalid kind
    rw [decide_eq_true_eq]
    cases kind <;> exact this
  unfold derive deriveState
  rw [hlevel]
  rfl

end Registry

namespace SharedRegistry

open Registry SystemState

variable {s : SharedRegistry}

/-! ## One call -/

/-- The component whose restart a call begins, if a handler has to be waited for. -/
def restartBegun (s : SharedRegistry) : RegistryCall → Option Component
  | .report name _ _ => (s.registry.find? name).filter Component.waits
  | _ => none

/-- Whether a call brings the system state up to date. -/
def refreshes (s : SharedRegistry) : RegistryCall → Bool
  | .register name _ _ => (s.registry.find? name).isNone
  | .report name _ _ => (s.registry.find? name).any (!·.waits)
  | .restartEnded index _ => s.waiting[index]?.any fun report => (s.registry.find? report.component).isSome
  | .reportDropped _ => false
  | .reset name => (s.registry.find? name).isSome
  | .disablePriority priority _ => s.registry.components.any (isActiveOf priority)
  | .updateResource _ _ => true
  | .setThresholds kind thresholds => (s.registry.setThresholds kind thresholds).toBool
  | .setConsistent _ => true

/-- What a call makes of the registry: it changes something and refreshes, or it begins a restart, or it
changes nothing. -/
inductive Change (s : SharedRegistry) (call : RegistryCall) (after : Registry) : Prop where
  | refreshed (r : Registry) (hrefreshes : s.refreshes call = true) (hafter : after = r.refresh.1)
    (hunique : s.registry.UniqueNames → r.UniqueNames)
  | restartBegun (c : Component) (reason : String) (hrefreshes : s.refreshes call = false)
    (hbegun : s.restartBegun call = some c) (hfind : s.registry.find? c.status.name = some c)
    (hrestarts : c.status.restarts = true) (hafter : after = s.registry.modify c.status.name (·.markDown reason))
  | nothing (hrefreshes : s.refreshes call = false) (hbegun : s.restartBegun call = none)
    (hafter : after = s.registry)

theorem change_report (name error : String) (isCritical : Bool) :
    Change s (.report name error isCritical) (s.step (.report name error isCritical)).registry := by
  cases hfind : s.registry.find? name with
  | none =>
    refine .nothing ?_ ?_ ?_
    · simp [refreshes, hfind]
    · simp [restartBegun, hfind]
    · rw [step_report_none hfind]
  | some c =>
    obtain ⟨f, hf, hbegin, hmark⟩ := beginReport_eq hfind error isCritical
    have hself := (updated_modify f hf hfind).self
    by_cases hrestarts : c.status.restarts = true
    · rw [Component.verdict_of_restarts hrestarts] at hbegin
      cases hhandler : c.restart with
      | none =>
        rw [hhandler] at hbegin
        obtain ⟨g, hg, d, hend⟩ := endReport_eq hself (.ok ())
        refine .refreshed (((s.registry.modify name f).modify name g)) ?_ ?_ ?_
        · simp [refreshes, hfind, Component.waits, hhandler]
        · simp only [step, call, hbegin, hend, bind, Except.bind]
          rfl
        · exact fun h => uniqueNames_modify hg (uniqueNames_modify hf h)
      | some handler =>
        rw [hhandler] at hbegin
        have hname := name_of_find? hfind
        have hwaits : c.waits = true := by simp [Component.waits, hrestarts, hhandler]
        refine .restartBegun c (s.registry.redactor.text error) ?_ ?_ ?_ hrestarts ?_
        · simp [refreshes, hfind, hwaits]
        · simp [restartBegun, hfind, hwaits]
        · rw [hname, hfind]
        · simp only [step, call, hbegin, bind, Except.bind]
          rw [hmark hrestarts, hname]
    · rw [Bool.not_eq_true] at hrestarts
      obtain ⟨outcome, hverdict⟩ := Component.verdict_of_not_restarts hrestarts isCritical
      rw [hverdict] at hbegin
      refine .refreshed (s.registry.modify name f) ?_ ?_ (uniqueNames_modify hf)
      · simp [refreshes, hfind, Component.waits, hrestarts]
      · simp only [step, call, hbegin, concludeReport_ok hself, bind, Except.bind]
        rfl

theorem change_restartEnded (index : Nat) (result : Except String Unit) :
    Change s (.restartEnded index result) (s.step (.restartEnded index result)).registry := by
  cases hwaiting : s.waiting[index]? with
  | none =>
    refine .nothing ?_ rfl ?_
    · simp [refreshes, hwaiting]
    · rw [step_restartEnded_none hwaiting]
  | some report =>
    cases hfind : s.registry.find? report.component with
    | none =>
      refine .nothing ?_ rfl ?_
      · simp [refreshes, hwaiting, hfind]
      · rw [step_restartEnded_unregistered hwaiting hfind]
    | some c =>
      obtain ⟨f, hf, d, hend⟩ := endReport_eq hfind result
      refine .refreshed (s.registry.modify report.component f) ?_ ?_ (uniqueNames_modify hf)
      · simp [refreshes, hwaiting, hfind]
      · simp only [step, call, hwaiting, hend, bind, Except.bind]
        rfl

theorem change_step (s : SharedRegistry) (call : RegistryCall) : Change s call (s.step call).registry := by
  cases call with
  | register name priority restart =>
    cases hfind : s.registry.find? name with
    | none =>
      obtain ⟨r, hregister, hunique⟩ := register_eq hfind priority restart
      refine .refreshed r (by simp [refreshes, hfind]) ?_ hunique
      simp only [step, SharedRegistry.call, hregister, bind, Except.bind]
      rfl
    | some c =>
      refine .nothing (by simp [refreshes, hfind]) rfl ?_
      simp only [step, SharedRegistry.call, register_taken hfind, bind, Except.bind]
  | report name error isCritical => exact change_report name error isCritical
  | restartEnded index result => exact change_restartEnded index result
  | reportDropped index => exact .nothing rfl rfl rfl
  | reset name =>
    cases hfind : s.registry.find? name with
    | none => exact .nothing (by simp [refreshes, hfind]) rfl (by rw [step_reset_none hfind])
    | some c =>
      refine .refreshed (s.registry.modify name (·.reset)) (by simp [refreshes, hfind]) ?_
        (uniqueNames_modify fun _ => rfl)
      simp only [step, SharedRegistry.call, reset_eq hfind, bind, Except.bind]
      rfl
  | disablePriority priority reason =>
    rcases disablePriority_eq s.registry priority reason with ⟨hnone, hdisable⟩ | ⟨hsome, r, names, -, hnames, hdisable⟩
    · refine .nothing hnone rfl ?_
      simp only [step, SharedRegistry.call, hdisable]
      rfl
    · refine .refreshed r hsome ?_ (fun h => by unfold UniqueNames; rwa [hnames])
      simp only [step, SharedRegistry.call, hdisable]
      rfl
  | updateResource kind usage => exact .refreshed _ rfl rfl id
  | setThresholds kind thresholds =>
    rcases setThresholds_eq (r := s.registry) kind thresholds with ⟨e, hset⟩ | ⟨r, hnames, hset⟩
    · refine .nothing (by simp [refreshes, hset, Except.toBool]) rfl ?_
      simp only [step, SharedRegistry.call, hset, bind, Except.bind]
    · refine .refreshed r (by simp [refreshes, hset, Except.toBool]) ?_ (fun h => by unfold UniqueNames; rwa [hnames])
      simp only [step, SharedRegistry.call, hset, bind, Except.bind]
      rfl
  | setConsistent value => exact .refreshed _ rfl rfl id

/-! ## Runs -/

/-- At some moment of a run a restart began of a component that calls for a worse state than the system had, and
no call since then has refreshed the state. -/
def Stale (s : SharedRegistry) (calls : List RegistryCall) : Prop :=
  ∃ before call since c, calls = before ++ call :: since ∧ (s.play before).restartBegun call = some c ∧
    (s.play before).registry.state.rank < c.status.priority.alarm.rank ∧
    ∀ earlier next later, since = earlier ++ next :: later →
      (s.play (before ++ call :: earlier)).refreshes next = false

theorem play_concat (s : SharedRegistry) (calls : List RegistryCall) (call : RegistryCall) :
    s.play (calls ++ [call]) = (s.play calls).step call := by
  simp [play]

/-- After one more call a run is stale if that call does not refresh, and the run was stale before or becomes so
by this call. -/
theorem stale_concat (s : SharedRegistry) (calls : List RegistryCall) (call : RegistryCall)
    (hexclusive : ∀ c, (s.play calls).restartBegun call = some c → (s.play calls).refreshes call = false) :
    Stale s (calls ++ [call]) ↔ (s.play calls).refreshes call = false ∧ (Stale s calls ∨
      ∃ c, (s.play calls).restartBegun call = some c ∧
        (s.play calls).registry.state.rank < c.status.priority.alarm.rank) := by
  constructor
  · rintro ⟨before, first, since, c, hcalls, hbegun, hworse, hquiet⟩
    rcases List.eq_nil_or_concat since with rfl | ⟨since, last, rfl⟩
    · obtain ⟨rfl, rfl⟩ : calls = before ∧ call = first := by simpa using hcalls
      exact ⟨hexclusive c hbegun, .inr ⟨c, hbegun, hworse⟩⟩
    · have hsplit : calls ++ [call] = (before ++ first :: since) ++ [last] := by simpa using hcalls
      obtain ⟨rfl, hlast⟩ := List.append_inj' hsplit rfl
      obtain rfl : call = last := by simpa using hlast
      refine ⟨hquiet since call [] (by simp), .inl ⟨before, first, since, c, rfl, hbegun, hworse, ?_⟩⟩
      intro earlier next later hsince
      exact hquiet earlier next (later ++ [call]) (by simp [hsince])
  · rintro ⟨hquiet, ⟨before, first, since, c, rfl, hbegun, hworse, hsince⟩ | ⟨c, hbegun, hworse⟩⟩
    · refine ⟨before, first, since ++ [call], c, by simp, hbegun, hworse, ?_⟩
      intro earlier next later heq
      rcases List.eq_nil_or_concat later with rfl | ⟨later, last, rfl⟩
      · obtain ⟨rfl, rfl⟩ : since = earlier ∧ call = next := by simpa using heq
        exact hquiet
      · have hsplit : since ++ [call] = (earlier ++ next :: later) ++ [last] := by simpa using heq
        obtain ⟨rfl, hlast⟩ := List.append_inj' hsplit rfl
        exact hsince earlier next later rfl
    · exact ⟨calls, call, [], c, rfl, hbegun, hworse, fun earlier next later h => by simp at h⟩

/-- What every run keeps: the names differ, and the state shown is no worse than it should be. -/
structure Shown (s : SharedRegistry) : Prop where
  unique : s.registry.UniqueNames
  mild : s.registry.state.rank ≤ s.registry.derive.rank

theorem selfConsistent_snapshot_iff (r : Registry) : r.snapshot.SelfConsistent ↔ r.state = r.derive := Iff.rfl

theorem selfConsistent_refresh (r : Registry) : r.refresh.1.snapshot.SelfConsistent := rfl

/-- A call keeps this; and a snapshot after it agrees with itself if the call refreshed, or one before it did
and no restart of a component began that calls for a worse state. -/
theorem shown_step (h : s.Shown) (call : RegistryCall) : (s.step call).Shown ∧
    ((s.step call).registry.snapshot.SelfConsistent ↔ s.refreshes call = true ∨
      (s.registry.snapshot.SelfConsistent ∧ ¬ ∃ c, s.restartBegun call = some c ∧
        s.registry.state.rank < c.status.priority.alarm.rank)) := by
  cases change_step s call with
  | refreshed r hrefreshes hafter hunique =>
    have hself := selfConsistent_refresh r
    rw [← hafter] at hself
    refine ⟨⟨?_, ?_⟩, iff_of_true hself (.inl hrefreshes)⟩
    · rw [hafter]
      exact hunique h.unique
    · exact Nat.le_of_eq (congrArg rank hself)
  | restartBegun c reason hrefreshes hbegun hfind hrestarts hafter =>
    have hderive := derive_markDown h.unique hfind hrestarts reason
    rw [← hafter] at hderive
    have hstate : (s.step call).registry.state = s.registry.state := by
      rw [hafter]
      rfl
    have hrank : (s.step call).registry.derive.rank =
        max s.registry.derive.rank c.status.priority.alarm.rank := by
      rw [hderive, rank_worst]
    have hmild := h.mild
    refine ⟨⟨?_, ?_⟩, ?_⟩
    · rw [hafter]
      exact uniqueNames_modify (fun _ => rfl) h.unique
    · rw [hstate, hrank]
      omega
    · rw [selfConsistent_snapshot_iff, selfConsistent_snapshot_iff, hrefreshes, hbegun, hstate]
      simp only [Option.some.injEq, exists_eq_left', Bool.false_eq_true, false_or]
      constructor
      · intro heq
        have hrank' := congrArg rank heq
        rw [hrank] at hrank'
        exact ⟨eq_of_rank_eq (by omega), by omega⟩
      · rintro ⟨heq, hle⟩
        have hrank' := congrArg rank heq
        exact eq_of_rank_eq (by omega)
  | nothing hrefreshes hbegun hafter =>
    refine ⟨⟨?_, ?_⟩, ?_⟩
    · rw [hafter]
      exact h.unique
    · rw [hafter]
      exact h.mild
    · rw [hafter, hrefreshes, hbegun]
      simp

theorem refreshes_of_restartBegun {call : RegistryCall} {c : Component} (h : s.restartBegun call = some c) :
    s.refreshes call = false := by
  cases change_step s call with
  | refreshed r hrefreshes hafter hunique =>
    cases call with
    | report name error isCritical =>
      obtain ⟨hfind, hwaits⟩ := Option.filter_eq_some_iff.mp h
      simp [refreshes, hfind, hwaits]
    | _ => exact absurd h (by simp [restartBegun])
  | restartBegun c reason hrefreshes => exact hrefreshes
  | nothing hrefreshes => exact hrefreshes

/-- **Whether a snapshot agrees with itself.** After every run of calls to a registry with valid thresholds, the
state of a snapshot is the one that its components, its resources and its flag call for, unless the run is
stale: a restart began whose component calls for a worse state than the system had, and nothing has refreshed
the state since. The state shown is in no case worse than the one called for.

A call here is over at once, but for the restart handler that it may wait for; between the accesses of one call
no other comes in. -/
theorem selfConsistent_iff (resources : ResourceSettings) (hvalid : resources.validate = .ok ())
    (redactor : Redactor) (calls : List RegistryCall) :
    let shown := ((new resources redactor).play calls).registry.snapshot
    (shown.SelfConsistent ↔ ¬ Stale (new resources redactor) calls) ∧
      shown.state.rank ≤ (deriveState shown.components shown.resources shown.consistent).rank := by
  have hrun : ((new resources redactor).play calls).Shown ∧
      (((new resources redactor).play calls).registry.snapshot.SelfConsistent ↔
        ¬ Stale (new resources redactor) calls) := by
    -- Calls are added at the end of the run, since staleness looks at the last refresh.
    induction calls using List.reverseRecOn with
    | nil =>
      have hstate : (new resources redactor).registry.state = (new resources redactor).registry.derive :=
        state_new hvalid redactor
      refine ⟨⟨List.nodup_nil, Nat.le_of_eq (congrArg rank hstate)⟩, iff_of_true hstate ?_⟩
      rintro ⟨before, call, since, c, hcalls, -⟩
      simp at hcalls
    | append_singleton calls call ih =>
      obtain ⟨hshown, hself⟩ := ih
      obtain ⟨hshown', hself'⟩ := shown_step hshown call
      rw [play_concat, stale_concat _ _ _ fun c => refreshes_of_restartBegun]
      refine ⟨hshown', hself'.trans ?_⟩
      rw [hself]
      cases ((new resources redactor).play calls).refreshes call <;> simp [not_or]
  exact ⟨hrun.2, hrun.1.mild⟩

/-- A critical component fails, and the report that waits for its restart is dropped. -/
def droppedRestart : List RegistryCall :=
  [.register "executor" .critical (some 0), .report "executor" "lost" true, .reportDropped 0]

/-- After the next refresh the snapshot agrees with itself: the system is critical. -/
theorem selfConsistent_iff_refreshed :
    ResourceSettings.default.validate = .ok () ∧
      let run := droppedRestart ++ [.setConsistent true]
      let shown := ((new .default ⟨true⟩).play run).registry.snapshot
      ((shown.SelfConsistent ↔ ¬ Stale (new .default ⟨true⟩) run) ∧
        shown.state.rank ≤ (deriveState shown.components shown.resources shown.consistent).rank) ∧
      shown.SelfConsistent ∧ shown.state = .critical :=
  ⟨rfl, selfConsistent_iff .default rfl ⟨true⟩ (droppedRestart ++ [.setConsistent true]), rfl, rfl⟩

/-- While the restart is under way, and for good once the report is dropped, a snapshot shows a critical
component that is down in a system whose state is normal. -/
theorem not_selfConsistent_droppedRestart :
    let duringRestart := ((new .default ⟨true⟩).play (droppedRestart.take 2)).registry.snapshot
    let dropped := ((new .default ⟨true⟩).play droppedRestart).registry.snapshot
    ResourceSettings.default.validate = .ok () ∧
      (¬ duringRestart.SelfConsistent ∧ duringRestart.state = .normal ∧
        deriveState duringRestart.components duringRestart.resources duringRestart.consistent = .critical) ∧
      (¬ dropped.SelfConsistent ∧ dropped.state = .normal ∧
        deriveState dropped.components dropped.resources dropped.consistent = .critical) := by
  have hnormal : SystemState.normal ≠ .critical := by decide
  exact ⟨rfl, ⟨hnormal, rfl, rfl⟩, hnormal, rfl, rfl⟩

end SharedRegistry

end Failsafe
