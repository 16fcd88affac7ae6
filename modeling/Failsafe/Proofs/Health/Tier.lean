import Failsafe.Health.Governor
import Failsafe.Proofs.Health.Status
import Failsafe.Proofs.Health.Terminal

/-!
# Disabling a tier

The components of one priority are a tier. `DisablesTier` says what it means to disable one: its active components are
named, each once, and disabled; everything else in the registry but the system state is left alone, the components of
the tier that were not running among it. `disablesTier` says so of every registry in which names are unique, and once is
enough: there is nothing left to do for a second call (`disablePriority_again`).

The governor disables the low tier when memory is scarce. Samples are calls to the registry (`Governor.sampleCalls`), so
what is said of all later calls is said of later samples too. What carries `disablePriority_tier` to them is that no
restart ever revives a component of the low tier: reports that wait for a restart are about components of the two
upper tiers (`low_stays_disabled`).
-/

namespace Failsafe

namespace Registry

variable {r : Registry} {name : String} {c : Component} {priority : Priority}

/-- The registry `r'` is `r` after a tier was disabled for a reason, with the names of the components that were. -/
structure DisablesTier (r : Registry) (priority : Priority) (reason : String) (r' : Registry) (names : List String) :
    Prop where
  names_iff : ∀ name, name ∈ names ↔
    ∃ c, r.find? name = some c ∧ c.status.priority = priority ∧ c.status.active = true
  nodup : names.Nodup
  disabled : ∀ name ∈ names, ∃ c, r.find? name = some c ∧ r'.find? name = some (c.withStatus
    { c.status with active := false, healthy := false, degraded := true, reason := some reason })
  others : ∀ name, name ∉ names → r'.find? name = r.find? name
  resources : r'.resources = r.resources
  consistent : r'.consistent = r.consistent

theorem isActiveOf_iff : isActiveOf priority c = true ↔ c.status.priority = priority ∧ c.status.active = true := by
  unfold isActiveOf
  rw [Bool.and_eq_true, decide_eq_true_eq]

theorem names_disablePriority (r : Registry) (priority : Priority) (reason : String) :
    (r.disablePriority priority reason).2.2 = (r.components.filter (isActiveOf priority)).map (·.status.name) := by
  unfold disablePriority
  dsimp only
  split <;> rfl

theorem components_disablePriority (r : Registry) (priority : Priority) (reason : String) :
    (r.disablePriority priority reason).1.components = r.components.map fun c =>
      if isActiveOf priority c then c.withStatus (c.status.disable reason) else c := by
  unfold disablePriority
  dsimp only
  split <;> rfl

/-- The components that are named are the active ones of the priority. -/
theorem mem_names_disablePriority_iff (hunique : r.UniqueNames) (reason : String) :
    name ∈ (r.disablePriority priority reason).2.2 ↔ ∃ c, r.find? name = some c ∧ isActiveOf priority c = true := by
  rw [names_disablePriority, List.mem_map]
  constructor
  · rintro ⟨c, hc, rfl⟩
    obtain ⟨hmem, hactive⟩ := List.mem_filter.mp hc
    exact ⟨c, find?_of_mem hunique hmem, hactive⟩
  · rintro ⟨c, hfind, hactive⟩
    exact ⟨c, List.mem_filter.mpr ⟨List.mem_of_find?_eq_some hfind, hactive⟩, name_of_find? hfind⟩

theorem disablesTier (hunique : r.UniqueNames) (priority : Priority) (reason : String) :
    r.DisablesTier priority reason (r.disablePriority priority reason).1 (r.disablePriority priority reason).2.2 where
  names_iff := by
    intro name
    rw [mem_names_disablePriority_iff hunique]
    simp only [isActiveOf_iff]
  nodup := by
    rw [names_disablePriority]
    exact hunique.sublist (List.filter_sublist.map _)
  disabled := by
    intro name hname
    obtain ⟨c, hfind, hactive⟩ := (mem_names_disablePriority_iff hunique reason).mp hname
    refine ⟨c, hfind, ?_⟩
    rw [find?_disablePriority, hfind, Option.map_some, if_pos hactive]
    rfl
  others := by
    intro name hname
    rw [find?_disablePriority]
    cases hfind : r.find? name with
    | none => rfl
    | some c =>
      have hidle : ¬ isActiveOf priority c = true := fun hactive =>
        hname ((mem_names_disablePriority_iff hunique reason).mpr ⟨c, hfind, hactive⟩)
      rw [Option.map_some, if_neg hidle]
  resources := by
    unfold disablePriority
    dsimp only
    split <;> rfl
  consistent := by
    unfold disablePriority
    dsimp only
    split <;> rfl

/-- A tier that has just been disabled has no active component left, and disabling it again changes nothing. -/
theorem disablePriority_again (r : Registry) (priority : Priority) (reason again : String) :
    (r.disablePriority priority reason).1.disablePriority priority again =
      ((r.disablePriority priority reason).1, [], []) := by
  have hidle : (r.disablePriority priority reason).1.components.any (isActiveOf priority) = false := by
    rw [components_disablePriority, List.any_eq_false]
    intro c hc
    obtain ⟨before, -, rfl⟩ := List.mem_map.mp hc
    split
    · exact fun hactive => absurd (isActiveOf_iff.mp hactive).2 (by simp [Component.withStatus, ComponentStatus.disable])
    · assumption
  rcases disablePriority_eq (r.disablePriority priority reason).1 priority again with ⟨-, hsame⟩ | ⟨hsome, -⟩
  · exact hsame
  · exact absurd (hidle.symm.trans hsome) (by simp)

end Registry

/-! ## Samples -/

namespace Governor

theorem handle_memory_critical (g : Governor) {r : Registry} {usage : Float}
    (h : (r.resources.get .memory).thresholds.level usage = .critical) :
    let disabled := (r.updateResource .memory usage).1.disablePriority .low memoryReason
    (g.handle r .memory usage).registry = disabled.1 ∧
      (g.handle r .memory usage).actions = [.disabledLowPriority disabled.2.2] := by
  have hlevel : (r.updateResource .memory usage).2.2 = .critical := h
  unfold handle
  dsimp only
  rw [hlevel]
  exact ⟨rfl, rfl⟩

theorem handle_memory_calm (g : Governor) {r : Registry} {usage : Float}
    (h : (r.resources.get .memory).thresholds.level usage ≠ .critical) :
    (g.handle r .memory usage).registry = (r.updateResource .memory usage).1 ∧
      ∀ names, .disabledLowPriority names ∉ (g.handle r .memory usage).actions := by
  have hlevel : (r.updateResource .memory usage).2.2 ≠ .critical := h
  unfold handle
  dsimp only
  generalize (r.updateResource .memory usage).2.2 = level at hlevel
  cases level with
  | critical => exact absurd rfl hlevel
  | warning => exact ⟨rfl, fun names => by simp⟩
  | normal => exact ⟨rfl, fun names => by simp⟩

end Governor

namespace SharedRegistry

open Registry

/-- A component of the low tier that is not running stays so until its reset. -/
theorem low_stays_disabled {resources : ResourceSettings} {redactor : Redactor} {calls : List RegistryCall}
    {name : String} {c : Component} (hfind : ((new resources redactor).play calls).registry.find? name = some c)
    (hlow : c.status.priority = .low) (hdisabled : c.status.active = false) {more : List RegistryCall}
    (hmore : ∀ call ∈ more, call ≠ .reset name) :
    ∃ c', (((new resources redactor).play calls).play more).registry.find? name = some c' ∧
      c'.status.active = false ∧ c'.status.degraded = true := by
  have hdown : c.status.isDown = true := by simp [ComponentStatus.isDown, hdisabled]
  have hwaiting : ∀ w ∈ ((new resources redactor).play calls).waiting, w.component ≠ name := by
    rintro w hw rfl
    obtain ⟨c', hfind', hupper⟩ := exists_of_mem_waiting resources redactor calls w hw
    obtain rfl := Option.some.inj (hfind.symm.trans hfind')
    rw [hlow] at hupper
    exact absurd hupper (by simp)
  obtain ⟨c', hfind', hdown'⟩ :=
    stays_down (sound_play (sound_new resources redactor) calls) hfind hdown hwaiting hmore
  exact ⟨c', hfind', hdown'.inactive hdisabled, hdown'.degraded⟩

/-- **Disabling a tier.** In every registry that was put to any use, for every priority and reason: the active components
of the priority are named, each once, and disabled for the reason; no other component is changed, whether of the tier or
not, no resource and not the consistency flag; and to disable the tier once more names nobody and changes nothing, nor is
it an event. A sample of the memory that the governor handles disables the low tier in this way if it is critical under
the thresholds in force; then the components so disabled stay disabled through all later calls, samples among them, until
one of them is their reset. If it is not critical no component is changed, and nobody is named. Calls are over at once
here, but for the restart handlers that they wait for. -/
theorem disablePriority_tier (resources : ResourceSettings) (redactor : Redactor) (calls : List RegistryCall) :
    let s := (new resources redactor).play calls
    (∀ priority reason, let disabled := s.registry.disablePriority priority reason
      s.registry.DisablesTier priority reason disabled.1 disabled.2.2 ∧
        ∀ again, disabled.1.disablePriority priority again = (disabled.1, [], [])) ∧
      ∀ (g : Governor) usage, let reaction := g.handle s.registry .memory usage
        ((s.registry.resources.get .memory).thresholds.level usage = .critical → ∃ names,
          reaction.actions = [.disabledLowPriority names] ∧
            (s.registry.updateResource .memory usage).1.DisablesTier .low memoryReason reaction.registry names ∧
              ∀ name ∈ names, ∀ more : List RegistryCall, (∀ call ∈ more, call ≠ .reset name) →
                ∃ c, ((s.changed reaction.registry reaction.events).play more).registry.find? name = some c ∧
                  c.status.active = false ∧ c.status.degraded = true) ∧
        ((s.registry.resources.get .memory).thresholds.level usage ≠ .critical →
          reaction.registry.components = s.registry.components ∧
            ∀ names, .disabledLowPriority names ∉ reaction.actions) := by
  intro s
  have hunique : s.registry.UniqueNames := uniqueNames_play (s := new resources redactor) List.nodup_nil calls
  refine ⟨fun priority reason => ⟨disablesTier hunique priority reason, ?_⟩, fun g usage => ⟨fun hcritical => ?_, ?_⟩⟩
  · exact disablePriority_again s.registry priority reason
  · obtain ⟨hregistry, hactions⟩ := g.handle_memory_critical hcritical
    have htier := disablesTier (r := (s.registry.updateResource .memory usage).1) hunique .low memoryReason
    refine ⟨_, hactions, by rw [hregistry]; exact htier, fun name hname more hmore => ?_⟩
    obtain ⟨c, hfind, hdisabled⟩ := htier.disabled name hname
    obtain ⟨c', hfind', hlow, -⟩ := (htier.names_iff name).mp hname
    obtain rfl := Option.some.inj (hfind.symm.trans hfind')
    rw [← hregistry] at hdisabled
    -- The sample is a part of the run.
    have hhandled := g.handle_sampleCalls s .memory usage
    rw [← play_append] at hhandled
    have hfound : ((new resources redactor).play
        (calls ++ Governor.sampleCalls s.registry .memory usage)).registry.find? name = _ :=
      (congrArg (·.registry.find? name) hhandled).symm.trans hdisabled
    rw [hhandled]
    exact low_stays_disabled hfound hlow rfl hmore
  · intro hcalm
    obtain ⟨hregistry, hactions⟩ := g.handle_memory_calm hcalm
    refine ⟨?_, hactions⟩
    rw [hregistry]
    rfl

end SharedRegistry

end Failsafe
