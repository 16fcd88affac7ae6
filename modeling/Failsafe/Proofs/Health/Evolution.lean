import Failsafe.Health.Governor
import Failsafe.Proofs.Health.Refresh

/-!
# How a registry evolves

Whatever an operation alters in a registry, components, resources or the consistency flag, it leaves the system state
to the refresh that comes last. So an operation that has run to its end did nothing, or it altered the registry and
refreshed it (`Registry.Tended`); the governor does this up to two times. The only one that ends without a refresh is
the first half of a report (`beginReport_altered`).

This is all one has to know to see that names are never given up (`Tended.names`), that a state that is up to date
stays so (`Tended.upToDate`), and that the events are changes of the system state that lead, one after the other, from
the state before to the state after (`Tended.leads`).
-/

namespace Failsafe

/-- The change of the system state that an event tells of. -/
def Event.change? : Event → Option (SystemState × SystemState)
  | .stateChanged before after => some (before, after)
  | _ => none

/-- Changes that lead from one state to another: each begins in the state where the one before it ended, and none ends
where it began. -/
inductive SystemState.Leads : SystemState → List (SystemState × SystemState) → SystemState → Prop
  | nil (state : SystemState) : Leads state [] state
  | cons {before after last : SystemState} {rest : List (SystemState × SystemState)} (hdiffers : before ≠ after)
    (hrest : Leads after rest last) : Leads before ((before, after) :: rest) last

theorem SystemState.Leads.append {first middle last : SystemState} {changes changes' : List (SystemState × SystemState)}
    (h : Leads first changes middle) (h' : Leads middle changes' last) : Leads first (changes ++ changes') last := by
  induction h with
  | nil state => exact h'
  | cons hdiffers hrest ih => exact .cons hdiffers (ih h')

namespace Registry

variable {r r' r'' : Registry} {name : String} {c : Component} {events events' : List Event}

theorem mem_names_iff : name ∈ r.names ↔ ∃ c, r.find? name = some c := by
  constructor
  · intro hmem
    cases hfind : r.find? name with
    | some c => exact ⟨c, rfl⟩
    | none => exact absurd hmem (not_mem_names_of_find? hfind)
  · rintro ⟨c, hc⟩
    rw [← name_of_find? hc]
    exact List.mem_map_of_mem (List.mem_of_find?_eq_some hc)

/-- The kept system state is the one that the contents call for. -/
def UpToDate (r : Registry) : Prop := r.state = r.derive

theorem upToDate_refresh (r : Registry) : r.refresh.1.UpToDate := rfl

/-- In `r'` the system state is that of `r`, and the names of `r` are still in use. -/
structure Altered (r r' : Registry) : Prop where
  state : r'.state = r.state
  names : r.names ⊆ r'.names

theorem Altered.refl (r : Registry) : r.Altered r := ⟨rfl, List.Subset.refl _⟩

/-- What an operation that has run to its end makes of a registry, with its events. -/
inductive Tended : Registry → Registry → List Event → Prop
  | untouched (r : Registry) : Tended r r []
  | refreshed {r r' : Registry} (h : r.Altered r') : Tended r r'.refresh.1 r'.refresh.2
  | andThen {r r' r'' : Registry} {events events' : List Event} (h : Tended r r' events)
    (h' : Tended r' r'' events') : Tended r r'' (events ++ events')

namespace Tended

theorem names (h : r.Tended r' events) : r.names ⊆ r'.names := by
  induction h with
  | untouched r => exact List.Subset.refl _
  | refreshed h => exact h.names
  | andThen h h' ih ih' => exact List.Subset.trans ih ih'

theorem upToDate (h : r.Tended r' events) (hr : r.UpToDate) : r'.UpToDate := by
  induction h with
  | untouched r => exact hr
  | @refreshed r r' h => exact r'.upToDate_refresh
  | andThen h h' ih ih' => exact ih' (ih hr)

theorem ofState (h : r.Tended r' events) : ∀ e ∈ events, e.ofState = true := by
  induction h with
  | untouched r => exact List.forall_mem_nil _
  | refreshed h => exact fun e he => ofState_of_mem_refresh he
  | andThen h h' ih ih' =>
    intro e he
    rcases List.mem_append.mp he with he | he
    · exact ih e he
    · exact ih' e he

theorem leads (h : r.Tended r' events) : SystemState.Leads r.state (events.filterMap Event.change?) r'.state := by
  induction h with
  | untouched r => exact .nil r.state
  | @refreshed r r' h =>
    rw [← h.state]
    unfold refresh
    dsimp only
    split
    · next hsame =>
      rw [← hsame]
      exact .nil r'.state
    · next hdiffers => exact .cons hdiffers (.nil r'.derive)
  | andThen h h' ih ih' =>
    rw [List.filterMap_append]
    exact ih.append ih'

end Tended

/-! ## Reports -/

theorem altered_modify (f : ComponentStatus → ComponentStatus) (hf : ∀ s, (f s).name = s.name) (r : Registry)
    (name : String) : r.Altered (r.modify name f) where
  state := rfl
  names := by rw [names_modify f hf]; exact List.Subset.refl _

theorem mem_names_of_beginReport {error : String} {isCritical : Bool} {reported : Reported}
    (h : r.beginReport name error isCritical = .ok (r', reported)) : name ∈ r.names := by
  rw [mem_names_iff]
  cases hfind : r.find? name with
  | none => exact absurd ((beginReport_none hfind error isCritical).symm.trans h) (by simp)
  | some c => exact ⟨c, rfl⟩

/-- The first half of a report alters the registry and may leave it at that. -/
theorem beginReport_altered {error : String} {isCritical : Bool} {reported : Reported}
    (h : r.beginReport name error isCritical = .ok (r', reported)) : r.Altered r' := by
  obtain ⟨c, hfind⟩ := mem_names_iff.mp (mem_names_of_beginReport h)
  obtain ⟨f, hf, hbegin, -⟩ := beginReport_eq hfind error isCritical
  obtain ⟨rfl, -⟩ : r.modify name f = r' ∧ _ = reported := by simpa using hbegin.symm.trans h
  exact altered_modify f hf r name

/-- What a report that has come to its end makes of a registry: the system state has been brought up to date, and the
result has it. -/
structure Concluded (r r' : Registry) (events : List Event) (d : Degradation ComponentStatus) : Prop where
  tended : r.Tended r' events
  upToDate : r'.UpToDate
  systemState : d.systemState = r'.state

theorem concludeReport_concluded {altered : Registry} (haltered : r.Altered altered) {outcome : DegradationOutcome}
    {d : Degradation ComponentStatus} (h : altered.concludeReport name outcome = .ok (r', events, d)) :
    r.Concluded r' events d := by
  unfold concludeReport at h
  cases hstatus : altered.refresh.1.status name with
  | error e =>
    simp only [hstatus] at h
    exact absurd h (by simp [bind, Except.bind])
  | ok status =>
    simp only [hstatus] at h
    obtain ⟨rfl, rfl, rfl⟩ : altered.refresh.1 = r' ∧ altered.refresh.2 = events ∧ _ = d := by
      simpa [bind, Except.bind] using h
    exact ⟨.refreshed haltered, altered.upToDate_refresh, rfl⟩

theorem endReport_concluded {result : Except String Unit} {d : Degradation ComponentStatus}
    (h : r.endReport name result = .ok (r', events, d)) : r.Concluded r' events d := by
  cases hfind : r.find? name with
  | none => exact absurd ((endReport_none hfind result).symm.trans h) (by simp)
  | some c =>
    -- The status is changed once more, and what follows is the end of the report.
    unfold endReport finishRestart at h
    cases result with
    | ok _ =>
      dsimp only at h
      rw [updateStatus_eq hfind] at h
      exact concludeReport_concluded (altered_modify (·.revive) (fun _ => rfl) r name) h
    | error text =>
      dsimp only at h
      rw [updateStatus_eq hfind] at h
      exact concludeReport_concluded (altered_modify
        (·.degrade (Error.restartFailed name (r.redactor.text text)).message) (fun _ => rfl) r name) h

/-! ## The other operations -/

theorem register_tended {priority : Priority} {restart : Option Nat}
    (h : r.register name priority restart = .ok (r', events)) : r.Tended r' events := by
  cases hfind : r.find? name with
  | some c => exact absurd ((register_taken hfind priority restart).symm.trans h) (by simp)
  | none =>
    let added : Registry := { r with components := insertByName ⟨.fresh name priority, restart⟩ r.components }
    have hperm := (perm_insertByName ⟨.fresh name priority, restart⟩ r.components).map (·.status.name)
    have haltered : r.Altered added := ⟨rfl, fun other hother => hperm.mem_iff.mpr (List.mem_cons_of_mem _ hother)⟩
    have hadded : r.register name priority restart = .ok added.refresh := by
      unfold register
      rw [hfind]
    obtain ⟨rfl, rfl⟩ := Prod.ext_iff.mp (Except.ok.inj (hadded.symm.trans h))
    exact .refreshed haltered

theorem reset_tended {status : ComponentStatus} (h : r.reset name = .ok (r', events, status)) :
    r.Tended r' events := by
  cases hfind : r.find? name with
  | none => exact absurd ((reset_none hfind).symm.trans h) (by simp)
  | some c =>
    obtain ⟨rfl, rfl, -⟩ : (r.modify name (·.reset)).refresh.1 = r' ∧ (r.modify name (·.reset)).refresh.2 = events ∧
        _ = status := by simpa using (reset_eq hfind).symm.trans h
    exact .refreshed (altered_modify (·.reset) (fun _ => rfl) r name)

theorem disablePriority_tended (r : Registry) (priority : Priority) (reason : String) :
    r.Tended (r.disablePriority priority reason).1 (r.disablePriority priority reason).2.1 := by
  rcases r.disablePriority_eq priority reason with ⟨-, hnone⟩ | ⟨-, r', names, hstate, hnames, hsome⟩
  · rw [hnone]
    exact .untouched r
  · rw [hsome]
    exact .refreshed ⟨hstate, by rw [hnames]; exact List.Subset.refl _⟩

/-- Resources and consistency flag may change while names and state are the same. -/
theorem tended_of_components (hcomponents : r'.components = r.components) (hstate : r'.state = r.state) :
    r.Tended r'.refresh.1 r'.refresh.2 := by
  refine .refreshed ⟨hstate, ?_⟩
  unfold names
  rw [hcomponents]
  exact List.Subset.refl _

theorem updateResource_tended (r : Registry) (kind : ResourceKind) (usage : Float) :
    r.Tended (r.updateResource kind usage).1 (r.updateResource kind usage).2.1 := tended_of_components rfl rfl

theorem setConsistent_tended (r : Registry) (consistent : Bool) :
    r.Tended (r.setConsistent consistent).1 (r.setConsistent consistent).2 := tended_of_components rfl rfl

theorem setThresholds_tended {kind : ResourceKind} {thresholds : Thresholds}
    (h : r.setThresholds kind thresholds = .ok (r', events)) : r.Tended r' events := by
  unfold setThresholds at h
  split at h
  · exact absurd h (by simp)
  · obtain ⟨rfl, rfl⟩ := Prod.ext_iff.mp (Except.ok.inj h)
    exact tended_of_components rfl rfl

end Registry

/-- A sample ends in one operation or in two. -/
theorem Governor.handle_tended (g : Governor) (r : Registry) (kind : ResourceKind) (usage : Float) :
    r.Tended (g.handle r kind usage).registry (g.handle r kind usage).events := by
  have hsampled := r.updateResource_tended kind usage
  unfold handle
  dsimp only
  split
  · exact hsampled.andThen (Registry.disablePriority_tended _ _ _)
  all_goals exact hsampled

end Failsafe
