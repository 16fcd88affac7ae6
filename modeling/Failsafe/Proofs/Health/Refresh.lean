import Failsafe.Proofs.Health.Registry
import Mathlib.Data.List.Nodup
import Mathlib.Data.List.Perm.Basic

/-!
# How the operations of the registry end

Every operation that changes a registry consists of a change of components or resources and of a refresh of
the system state after it; only the first half of a report that restarts a component ends without a refresh.
There is one equation for each (`register_eq`, `beginReport_eq`, `concludeReport_ok`, `endReport_eq`, `reset_eq`,
`disablePriority_eq`, `setThresholds_eq`; the other two are their definitions), so that nobody else has to unfold
an operation to learn how it ends.

No operation gives two components one name (`UniqueNames`). A refresh is no other event than the change of the
system state (`ofState_of_mem_refresh`).
-/

namespace Failsafe

/-- Whether an event is a change of the system state. -/
def Event.ofState : Event → Bool
  | .stateChanged _ _ => true
  | _ => false

namespace ComponentStatus

/-- The status between the two halves of a report that restarts the component. -/
def markDown (s : ComponentStatus) (reason : String) : ComponentStatus :=
  { s.countFailure reason with healthy := false }

end ComponentStatus

/-- Whether a report of a failure waits for a handler to restart the component. -/
def Component.waits (c : Component) : Bool := c.status.restarts && c.restart.isSome

namespace Registry

variable {r : Registry} {name : String} {c : Component}

/-- The names of the components, in their order. -/
def names (r : Registry) : List String := r.components.map (·.status.name)

/-- No two components share a name. -/
def UniqueNames (r : Registry) : Prop := r.names.Nodup

theorem ofState_of_mem_refresh {e : Event} (h : e ∈ r.refresh.2) : e.ofState = true := by
  unfold refresh at h
  dsimp only at h
  split at h
  · exact absurd h List.not_mem_nil
  · rw [List.mem_singleton] at h
    rw [h]
    rfl

theorem names_map (change : Component → Component) (hname : ∀ c, (change c).status.name = c.status.name)
    (r : Registry) : ({ r with components := r.components.map change } : Registry).names = r.names := by
  unfold names
  dsimp only
  rw [List.map_map]
  exact List.map_congr_left fun c _ => hname c

theorem names_modify (f : ComponentStatus → ComponentStatus) (hf : ∀ s, (f s).name = s.name) (r : Registry)
    (name : String) : (r.modify name f).names = r.names := by
  refine names_map _ (fun c => ?_) r
  split
  · exact hf c.status
  · rfl

theorem uniqueNames_modify {f : ComponentStatus → ComponentStatus} (hf : ∀ s, (f s).name = s.name)
    (h : r.UniqueNames) : (r.modify name f).UniqueNames := by
  unfold UniqueNames
  rw [names_modify f hf]
  exact h

theorem modify_modify (f g : ComponentStatus → ComponentStatus) (hf : ∀ s, (f s).name = s.name) (r : Registry)
    (name : String) : (r.modify name f).modify name g = r.modify name (g ∘ f) := by
  unfold modify
  dsimp only
  rw [List.map_map]
  congr 1
  refine List.map_congr_left fun c _ => ?_
  dsimp only [Function.comp]
  by_cases hname : c.status.name = name
  · simp only [if_pos hname, (hf c.status).trans hname, if_true]
  · simp only [if_neg hname]

/-! ## Registering -/

theorem perm_insertByName (c : Component) (l : List Component) : (insertByName c l).Perm (c :: l) := by
  induction l with
  | nil => exact .refl _
  | cons other rest ih =>
    unfold insertByName
    split
    · exact .refl _
    · exact (ih.cons other).trans (.swap c other rest)

theorem not_mem_names_of_find? (h : r.find? name = none) : name ∉ r.names := by
  intro hmem
  obtain ⟨c, hc, rfl⟩ := List.mem_map.mp hmem
  have hnone := List.find?_eq_none.mp h c hc
  simp at hnone

/-- A registration adds a name that was free, and refreshes. -/
theorem register_eq (h : r.find? name = none) (priority : Priority) (restart : Option Nat) :
    ∃ r' : Registry, r.register name priority restart = .ok r'.refresh ∧ (r.UniqueNames → r'.UniqueNames) := by
  refine ⟨{ r with components := insertByName ⟨.fresh name priority, restart⟩ r.components }, ?_, ?_⟩
  · unfold register
    rw [h]
  · intro hunique
    have hperm := (perm_insertByName ⟨.fresh name priority, restart⟩ r.components).map (·.status.name)
    show ((insertByName _ r.components).map (·.status.name)).Nodup
    rw [hperm.nodup_iff, List.map_cons, List.nodup_cons]
    exact ⟨not_mem_names_of_find? h, hunique⟩

theorem register_taken (h : r.find? name = some c) (priority : Priority) (restart : Option Nat) :
    r.register name priority restart = .error (.duplicateComponent name) := by
  unfold register
  rw [h]

/-! ## Reports -/

/-- The first half of a report changes the status of one component, and does not refresh. -/
theorem beginReport_eq (h : r.find? name = some c) (error : String) (isCritical : Bool) :
    ∃ f : ComponentStatus → ComponentStatus, (∀ s, (f s).name = s.name) ∧
      r.beginReport name error isCritical = .ok (r.modify name f, c.verdict isCritical) ∧
      (c.status.restarts = true → f = (·.markDown (r.redactor.text error))) := by
  have hcounted := updated_modify (·.countFailure (r.redactor.text error)) (fun _ => rfl) h
  -- What follows the counting is a second change of the same component.
  have htwice : ∀ g : ComponentStatus → ComponentStatus,
      (r.modify name (·.countFailure (r.redactor.text error))).updateStatus name g =
        .ok (r.modify name fun s => g (s.countFailure (r.redactor.text error))) := by
    intro g
    rw [updateStatus_eq hcounted.self]
    exact congrArg _ (modify_modify (·.countFailure (r.redactor.text error)) g (fun _ => rfl) r name)
  unfold beginReport Component.verdict ComponentStatus.restarts
  rw [h]
  dsimp only
  by_cases hdown : c.status.isDown = true
  · rw [if_pos hdown, if_pos hdown]
    refine ⟨(·.countFailure (r.redactor.text error)), fun _ => rfl, rfl, fun hrestarts => ?_⟩
    simp [hdown] at hrestarts
  · rw [if_neg hdown, if_neg hdown]
    cases hp : c.status.priority with
    | low =>
      dsimp only
      rw [htwice]
      exact ⟨fun s => (s.countFailure (r.redactor.text error)).disable (r.redactor.text error), fun _ => rfl,
        rfl, by simp⟩
    | medium =>
      dsimp only
      by_cases hc : isCritical = true
      · rw [if_pos hc, if_pos hc, htwice]
        exact ⟨fun s => (s.countFailure (r.redactor.text error)).degrade (r.redactor.text error), fun _ => rfl,
          rfl, by simp⟩
      · rw [if_neg hc, if_neg hc]
        exact ⟨(·.countFailure (r.redactor.text error)), fun _ => rfl, rfl, by simp⟩
    | high =>
      dsimp only
      rw [htwice]
      exact ⟨(·.markDown (r.redactor.text error)), fun _ => rfl, rfl, fun _ => rfl⟩
    | critical =>
      dsimp only
      rw [htwice]
      exact ⟨(·.markDown (r.redactor.text error)), fun _ => rfl, rfl, fun _ => rfl⟩

/-- The second half of a report changes the status of one component, and refreshes. -/
theorem endReport_eq (h : r.find? name = some c) (result : Except String Unit) :
    ∃ f : ComponentStatus → ComponentStatus, (∀ s, (f s).name = s.name) ∧ ∃ d,
      r.endReport name result = .ok ((r.modify name f).refresh.1, (r.modify name f).refresh.2, d) := by
  unfold endReport finishRestart
  cases result with
  | ok _ =>
    have hupdated := updated_modify (·.revive) (fun _ => rfl) h
    dsimp only
    rw [updateStatus_eq h]
    exact ⟨(·.revive), fun _ => rfl, _, concludeReport_ok hupdated.self .restarted⟩
  | error text =>
    have hupdated := updated_modify (·.degrade (Error.restartFailed name (r.redactor.text text)).message)
      (fun _ => rfl) h
    dsimp only
    rw [updateStatus_eq h]
    exact ⟨(·.degrade (Error.restartFailed name (r.redactor.text text)).message), fun _ => rfl, _,
      concludeReport_ok hupdated.self .restartFailed⟩

/-! ## The other operations -/

theorem reset_eq (h : r.find? name = some c) :
    r.reset name =
      .ok ((r.modify name (·.reset)).refresh.1, (r.modify name (·.reset)).refresh.2, c.status.reset) := by
  have hupdated := updated_modify (·.reset) (fun _ => rfl) h
  unfold reset
  rw [updateStatus_eq h]
  show (do
      let status ← (r.modify name (·.reset)).status name
      let refreshed := (r.modify name (·.reset)).refresh
      Except.ok (refreshed.1, refreshed.2, status)) = _
  rw [status_eq hupdated.self]
  rfl

/-- Disabling a priority of which no component is active changes nothing; otherwise it refreshes. -/
theorem disablePriority_eq (r : Registry) (priority : Priority) (reason : String) :
    (r.components.any (isActiveOf priority) = false ∧ r.disablePriority priority reason = (r, [], [])) ∨
    (r.components.any (isActiveOf priority) = true ∧ ∃ (r' : Registry) (names : List String), r'.state = r.state ∧
      r'.names = r.names ∧ r.disablePriority priority reason = (r'.refresh.1, r'.refresh.2, names)) := by
  unfold disablePriority
  dsimp only
  by_cases hany : r.components.any (isActiveOf priority) = true
  · right
    obtain ⟨c, hc, hactive⟩ := List.any_eq_true.mp hany
    have hsome : ((r.components.filter (isActiveOf priority)).map (·.status.name)).isEmpty = false := by
      rw [List.isEmpty_map, List.isEmpty_eq_false_iff_exists_mem]
      exact ⟨c, List.mem_filter.mpr ⟨hc, hactive⟩⟩
    refine ⟨hany, { r with components := r.components.map (fun c =>
      if isActiveOf priority c then { c with status := c.status.disable reason } else c) },
      (r.components.filter (isActiveOf priority)).map (·.status.name), rfl, ?_, ?_⟩
    · unfold names
      rw [List.map_map]
      refine List.map_congr_left fun c _ => ?_
      dsimp only [Function.comp]
      split <;> rfl
    · rw [if_neg (by rw [hsome]; simp)]
  · left
    rw [Bool.not_eq_true] at hany
    have hnone : r.components.filter (isActiveOf priority) = [] := by
      rw [List.filter_eq_nil_iff]
      exact List.any_eq_false.mp hany
    have hsame : r.components.map (fun c =>
        if isActiveOf priority c then { c with status := c.status.disable reason } else c) = r.components := by
      refine (List.map_congr_left fun c hc => ?_).trans (List.map_id _)
      rw [if_neg (List.any_eq_false.mp hany c hc)]
      rfl
    refine ⟨hany, ?_⟩
    rw [hnone, hsame]
    rfl

theorem setThresholds_eq (kind : ResourceKind) (thresholds : Thresholds) :
    (∃ e, r.setThresholds kind thresholds = .error e) ∨
      ∃ r' : Registry, r'.names = r.names ∧ r.setThresholds kind thresholds = .ok r'.refresh := by
  unfold setThresholds
  split
  · exact .inl ⟨_, rfl⟩
  · exact .inr ⟨{ r with resources := r.resources.set kind { r.resources.get kind with thresholds } }, rfl, rfl⟩

end Registry

end Failsafe
