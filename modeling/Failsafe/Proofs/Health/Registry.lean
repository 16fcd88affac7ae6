import Failsafe.Health.Registry

/-!
# What the operations of the registry do to a component

A registry is seen here as a map from names to components, `Registry.find?`. Each operation has one lemma that
says when it fails and what it does to this map: `register_ok`, `beginReport_ok`, `endReport_ok`, `reset_ok`,
`find?_disablePriority`. The other operations leave the map alone.
-/

namespace Failsafe

/-! ## Changes of a status -/

namespace ComponentStatus

/-- The status after the first half of a report. -/
def reported (s : ComponentStatus) (reason : String) (isCritical : Bool) : ComponentStatus :=
  if s.isDown then s.countFailure reason
  else match s.priority with
    | .low => (s.countFailure reason).disable reason
    | .medium =>
      if isCritical then (s.countFailure reason).degrade reason else s.countFailure reason
    | .high | .critical => { s.countFailure reason with healthy := false }

/-- The status after the second half of a report. -/
def restartEnded (s : ComponentStatus) (redactor : Redactor) (result : Except String Unit) :
    ComponentStatus :=
  match result with
  | .ok _ => s.revive
  | .error text => s.degrade (Error.restartFailed s.name (redactor.text text)).message

/-- Whether a report of a failure restarts the component. -/
def restarts (s : ComponentStatus) : Bool :=
  !s.isDown && (s.priority = .high || s.priority = .critical)

end ComponentStatus

namespace Component

/-- The component with another status. -/
def withStatus (c : Component) (s : ComponentStatus) : Component := { c with status := s }

/-- What becomes of a report on the component after its first half. -/
def verdict (c : Component) (isCritical : Bool) : Reported :=
  if c.status.isDown then .settled .recorded
  else match c.status.priority with
    | .low => .settled .disabled
    | .medium => .settled (if isCritical then .degraded else .recorded)
    | .high | .critical => .restarting c.restart

/-- The status that a report leaves behind, with the restart over at once unless a handler does it. -/
def afterReport (c : Component) (reason : String) (isCritical : Bool) : ComponentStatus :=
  let first := c.status.reported reason isCritical
  if c.status.restarts && c.restart.isNone then first.revive else first

theorem verdict_of_not_restarts {c : Component} (h : c.status.restarts = false) (isCritical : Bool) :
    ∃ outcome, c.verdict isCritical = .settled outcome := by
  unfold verdict
  unfold ComponentStatus.restarts at h
  by_cases hdown : c.status.isDown = true
  · exact ⟨_, if_pos hdown⟩
  · rw [if_neg hdown]
    cases hp : c.status.priority with
    | low => exact ⟨_, rfl⟩
    | medium => exact ⟨_, rfl⟩
    | high => simp [hdown, hp] at h
    | critical => simp [hdown, hp] at h

theorem verdict_of_restarts {c : Component} (h : c.status.restarts = true) (isCritical : Bool) :
    c.verdict isCritical = .restarting c.restart := by
  unfold verdict
  unfold ComponentStatus.restarts at h
  simp only [Bool.and_eq_true, Bool.not_eq_true', Bool.or_eq_true, decide_eq_true_eq] at h
  rw [if_neg (by simp [h.1])]
  rcases h.2 with hp | hp <;> rw [hp]

end Component

/-! ## The registry as a map -/

namespace Registry

variable {r r' : Registry} {name other : String} {c : Component}

theorem name_of_find? (h : r.find? name = some c) : c.status.name = name := by
  simpa using List.find?_some h

@[simp]
theorem find?_refresh (r : Registry) (name : String) : r.refresh.1.find? name = r.find? name := rfl

/-- A change of the components that leaves their names alone changes the component that is found. -/
theorem find?_map (change : Component → Component) (hname : ∀ c, (change c).status.name = c.status.name)
    (r : Registry) (name : String) :
    ({ r with components := r.components.map change } : Registry).find? name = (r.find? name).map change := by
  have hpred : (fun c : Component => decide (c.status.name = name)) ∘ change =
      fun c => decide (c.status.name = name) := by
    funext c
    simp only [Function.comp, hname]
  unfold find?
  dsimp only
  rw [List.find?_map, hpred]

/-- Changing the status of one component leaves the others alone. -/
theorem find?_modify (f : ComponentStatus → ComponentStatus) (hf : ∀ s, (f s).name = s.name) (r : Registry)
    (name other : String) :
    (r.modify name f).find? other =
      (r.find? other).map fun c => if other = name then c.withStatus (f c.status) else c := by
  have hname (c : Component) :
      (if c.status.name = name then { c with status := f c.status } else c).status.name = c.status.name := by
    split
    · exact hf c.status
    · rfl
  refine (find?_map _ hname r other).trans ?_
  cases h : r.find? other with
  | none => rfl
  | some c =>
    rw [Option.map_some, Option.map_some, name_of_find? h]
    rfl

/-- `r'` is `r` but for the status of the component `c` with a name. -/
structure Updated (r : Registry) (name : String) (c : Component) (status : ComponentStatus) (r' : Registry) :
    Prop where
  redactor : r'.redactor = r.redactor
  self : r'.find? name = some (c.withStatus status)
  others : ∀ other, other ≠ name → r'.find? other = r.find? other

theorem updated_modify (f : ComponentStatus → ComponentStatus) (hf : ∀ s, (f s).name = s.name)
    (h : r.find? name = some c) : Updated r name c (f c.status) (r.modify name f) := by
  refine ⟨rfl, ?_, fun other hne => ?_⟩
  · rw [find?_modify f hf, h]
    simp
  · rw [find?_modify f hf]
    simp [hne]

theorem Updated.trans {status status' : ComponentStatus} {r'' : Registry} (h : Updated r name c status r')
    (h' : Updated r' name (c.withStatus status) status' r'') : Updated r name c status' r'' :=
  ⟨h'.redactor.trans h.redactor, h'.self, fun other hne => (h'.others other hne).trans (h.others other hne)⟩

theorem Updated.refresh {status : ComponentStatus} (h : Updated r name c status r') :
    Updated r name c status r'.refresh.1 := ⟨h.redactor, h.self, h.others⟩

theorem updateStatus_eq (h : r.find? name = some c) (f : ComponentStatus → ComponentStatus) :
    r.updateStatus name f = .ok (r.modify name f) := by
  unfold updateStatus
  rw [h]

theorem status_eq (h : r.find? name = some c) : r.status name = .ok c.status := by
  unfold status
  rw [h]

/-! ## Registering -/

theorem find?_insertByName (c : Component) (other : String) :
    ∀ l : List Component, l.find? (·.status.name = c.status.name) = none →
      (insertByName c l).find? (·.status.name = other) =
        if other = c.status.name then some c else l.find? (·.status.name = other)
  | [], _ => by
    by_cases h : other = c.status.name
    · subst h
      simp [insertByName]
    · simp [insertByName, h, Ne.symm h]
  | first :: rest, hfree => by
    have hfirst : first.status.name ≠ c.status.name := by
      intro heq
      simp [heq] at hfree
    -- The name is free, so the search passes by the first component.
    have hrest : rest.find? (·.status.name = c.status.name) = none := by
      simpa [List.find?_cons, hfirst] using hfree
    have ih := find?_insertByName c other rest hrest
    unfold insertByName
    by_cases hlt : c.status.name < first.status.name
    · rw [if_pos hlt, List.find?_cons]
      by_cases h : other = c.status.name
      · simp [h]
      · simp [h, Ne.symm h]
    · rw [if_neg hlt, List.find?_cons, List.find?_cons, ih]
      by_cases h : other = c.status.name
      · simp [h, hfirst]
      · rw [if_neg h, if_neg h]

theorem register_ok {priority : Priority} {restart : Option Nat} {events : List Event}
    (h : r.register name priority restart = .ok (r', events)) :
    r.find? name = none ∧ ∀ other, r'.find? other =
      if other = name then some ⟨.fresh name priority, restart⟩ else r.find? other := by
  unfold register at h
  split at h
  · exact absurd h (by simp)
  · next hnone =>
    refine ⟨hnone, fun other => ?_⟩
    obtain rfl : _ = r' := congrArg Prod.fst (Except.ok.inj h)
    rw [find?_refresh]
    exact find?_insertByName ⟨.fresh name priority, restart⟩ other r.components hnone

/-! ## Reports -/

/-- A second change of the component after its failure is counted. -/
theorem updated_counted (f : ComponentStatus → ComponentStatus) (hf : ∀ s, (f s).name = s.name)
    (reason : String) (h : r.find? name = some c) :
    Updated r name c (f (c.status.countFailure reason))
      ((r.modify name (·.countFailure reason)).modify name f) :=
  have hcounted := updated_modify (·.countFailure reason) (fun _ => rfl) h
  hcounted.trans (updated_modify f hf hcounted.self)

/-- The first half of a report on a registered component never fails. -/
theorem beginReport_ok (h : r.find? name = some c) (error : String) (isCritical : Bool) :
    ∃ r', r.beginReport name error isCritical = .ok (r', c.verdict isCritical) ∧
      Updated r name c (c.status.reported (r.redactor.text error) isCritical) r' := by
  -- The failure is counted in every case, and what follows changes the component so counted.
  have hcounted := updated_modify (·.countFailure (r.redactor.text error)) (fun _ => rfl) h
  unfold beginReport Component.verdict ComponentStatus.reported
  rw [h]
  dsimp only
  by_cases hdown : c.status.isDown = true
  · rw [if_pos hdown, if_pos hdown, if_pos hdown]
    exact ⟨_, rfl, hcounted⟩
  · rw [if_neg hdown, if_neg hdown, if_neg hdown]
    cases hp : c.status.priority with
    | low =>
      dsimp only
      rw [updateStatus_eq hcounted.self]
      exact ⟨_, rfl, updated_counted (·.disable (r.redactor.text error)) (fun _ => rfl) _ h⟩
    | medium =>
      dsimp only
      by_cases hc : isCritical = true
      · rw [if_pos hc, if_pos hc, if_pos hc, updateStatus_eq hcounted.self]
        exact ⟨_, rfl, updated_counted (·.degrade (r.redactor.text error)) (fun _ => rfl) _ h⟩
      · rw [if_neg hc, if_neg hc, if_neg hc]
        exact ⟨_, rfl, hcounted⟩
    | high =>
      dsimp only
      rw [updateStatus_eq hcounted.self]
      exact ⟨_, rfl, updated_counted (fun s => { s with healthy := false }) (fun _ => rfl) _ h⟩
    | critical =>
      dsimp only
      rw [updateStatus_eq hcounted.self]
      exact ⟨_, rfl, updated_counted (fun s => { s with healthy := false }) (fun _ => rfl) _ h⟩

theorem beginReport_none (h : r.find? name = none) (error : String) (isCritical : Bool) :
    r.beginReport name error isCritical = .error (.componentNotFound name) := by
  unfold beginReport
  rw [h]

/-- The end of a report on a registered component never fails, and only refreshes the system state. -/
theorem concludeReport_ok (h : r.find? name = some c) (outcome : DegradationOutcome) :
    r.concludeReport name outcome =
      .ok (r.refresh.1, r.refresh.2,
        { component := name, outcome, status := c.status, systemState := r.derive }) := by
  unfold concludeReport
  rw [show r.refresh = (r.refresh.1, r.refresh.2) from rfl]
  dsimp only
  rw [status_eq (show r.refresh.1.find? name = some c from h)]
  rfl

/-- The second half of a report on a registered component never fails. -/
theorem endReport_ok (h : r.find? name = some c) (result : Except String Unit) :
    ∃ r' events d, r.endReport name result = .ok (r', events, d) ∧
      Updated r name c (c.status.restartEnded r.redactor result) r' := by
  unfold endReport finishRestart ComponentStatus.restartEnded
  cases result with
  | ok _ =>
    have hupdated := updated_modify (·.revive) (fun _ => rfl) h
    dsimp only
    rw [updateStatus_eq h]
    exact ⟨_, _, _, concludeReport_ok hupdated.self .restarted, hupdated.refresh⟩
  | error text =>
    have hupdated := updated_modify (·.degrade (Error.restartFailed name (r.redactor.text text)).message)
      (fun _ => rfl) h
    dsimp only
    rw [updateStatus_eq h, name_of_find? h]
    exact ⟨_, _, _, concludeReport_ok hupdated.self .restartFailed, hupdated.refresh⟩

theorem endReport_none (h : r.find? name = none) (result : Except String Unit) :
    r.endReport name result = .error (.componentNotFound name) := by
  unfold endReport finishRestart updateStatus
  cases result <;> simp only [h] <;> rfl

/-! ## The other operations -/

theorem reset_ok (h : r.find? name = some c) :
    ∃ r' events, r.reset name = .ok (r', events, c.status.reset) ∧
      Updated r name c c.status.reset r' := by
  have hupdated := updated_modify (·.reset) (fun _ => rfl) h
  unfold reset
  rw [updateStatus_eq h]
  show ∃ r' events, (do
      let status ← (r.modify name (·.reset)).status name
      let refreshed := (r.modify name (·.reset)).refresh
      Except.ok (refreshed.1, refreshed.2, status)) = _ ∧ _
  rw [status_eq hupdated.self]
  exact ⟨_, _, rfl, hupdated.refresh⟩

theorem reset_none (h : r.find? name = none) : r.reset name = .error (.componentNotFound name) := by
  unfold reset updateStatus
  rw [h]
  rfl

/-- Disabling a priority changes the active components of that priority and no others. -/
theorem find?_disablePriority (r : Registry) (priority : Priority) (reason other : String) :
    (r.disablePriority priority reason).1.find? other =
      (r.find? other).map fun c =>
        if isActiveOf priority c then c.withStatus (c.status.disable reason) else c := by
  have hname (c : Component) :
      (if isActiveOf priority c then c.withStatus (c.status.disable reason) else c).status.name = c.status.name := by
    split <;> rfl
  have hmap := find?_map _ hname r other
  unfold disablePriority
  dsimp only
  split <;> exact hmap

theorem setThresholds_ok {kind : ResourceKind} {thresholds : Thresholds} {events : List Event}
    (h : r.setThresholds kind thresholds = .ok (r', events)) : ∀ other, r'.find? other = r.find? other := by
  unfold setThresholds at h
  split at h
  · exact absurd h (by simp)
  · obtain rfl : _ = r' := congrArg Prod.fst (Except.ok.inj h)
    exact fun _ => rfl

end Registry

end Failsafe
