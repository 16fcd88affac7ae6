import Failsafe.Proofs.Health.Status

/-!
# The failure diagram

`Registry.reportThrough` is a report on a component that runs to its end before anybody else uses the registry. It is
the two halves of the report in one (`reportThrough_eq`), or a report and the end of the handler that it waits for, as
calls to a registry in shared use (`play_reportThrough`). `FailureDiagram` says what it does to the component: what the
outcome is, which handlers are called, and where the component stands afterwards.

A completed report or reset is one status put over another, and a refresh of the system state
(`AttendedRegistry.carryOut_registry`). The status depends on the component alone, as long as its handler knows of no
other component (`Separate`). Statuses of two names can be put in either order, so calls on two components can be
swapped (`AttendedRegistry.carryOut_comm`).

What carries the diagram is that a component which is neither healthy nor down is one that reports restart
(`ComponentStatus.Steady`); it is between the two halves of a report, or its report was dropped there.
-/

namespace Failsafe

/-- A report that has run to its end. -/
structure FinishedReport where
  registry : Registry
  events : List Event
  degradation : Degradation ComponentStatus
  /-- The restart handlers that were called. -/
  called : List Nat

namespace Registry

/-- A report that runs to its end before anybody else uses the registry; `ends` tells how the restart handlers end. -/
def reportThrough (r : Registry) (name error : String) (isCritical : Bool) (ends : Nat → Except String Unit) :
    Except Error FinishedReport := do
  let (begun, reported) ← r.beginReport name error isCritical
  match reported with
  | .settled outcome =>
    let (registry, events, degradation) ← begun.concludeReport name outcome
    .ok { registry, events, degradation, called := [] }
  | .restarting none =>
    let (registry, events, degradation) ← begun.endReport name (.ok ())
    .ok { registry, events, degradation, called := [] }
  | .restarting (some handler) =>
    let (registry, events, degradation) ← begun.endReport name (ends handler)
    .ok { registry, events, degradation, called := [handler] }

end Registry

namespace ComponentStatus

/-- Running, and nothing is wrong. -/
structure Well (s : ComponentStatus) : Prop where
  active : s.active = true
  healthy : s.healthy = true
  degraded : s.degraded = false

/-- Still running, but not as it should. -/
structure Impaired (s : ComponentStatus) : Prop where
  active : s.active = true
  healthy : s.healthy = false
  degraded : s.degraded = true

/-- Not running any more. -/
structure Disabled (s : ComponentStatus) : Prop where
  active : s.active = false
  healthy : s.healthy = false
  degraded : s.degraded = true

/-- What is neither healthy nor down is a component that reports restart. -/
def Steady (s : ComponentStatus) : Prop := s.healthy = false → s.isDown = true ∨ s.restarts = true

theorem steady_of_healthy {s : ComponentStatus} (h : s.healthy = true) : s.Steady := by
  intro hunhealthy
  rw [h] at hunhealthy
  exact absurd hunhealthy (by simp)

theorem steady_degrade (s : ComponentStatus) (reason : String) : (s.degrade reason).Steady :=
  fun _ => .inl rfl

theorem steady_disable (s : ComponentStatus) (reason : String) : (s.disable reason).Steady :=
  fun _ => .inl rfl

/-- Counting a failure leaves a component where it stands. -/
theorem Steady.countFailure {s : ComponentStatus} (h : s.Steady) (reason : String) :
    (s.countFailure reason).Steady := h

theorem Steady.reported {s : ComponentStatus} (h : s.Steady) (reason : String) (isCritical : Bool) :
    (s.reported reason isCritical).Steady := by
  unfold ComponentStatus.reported
  split
  · exact h.countFailure reason
  · next hdown =>
    -- A component that is marked as down for its restart is one that reports restart.
    have hmarked : ∀ p, s.priority = p → (p = .high ∨ p = .critical) → (s.markDown reason).Steady := by
      intro p hp hrestarts _
      right
      show (!s.isDown && (s.priority = .high || s.priority = .critical)) = true
      rcases hrestarts with rfl | rfl <;> simp [hdown, hp]
    split
    · exact steady_disable _ reason
    · split
      · exact steady_degrade _ reason
      · exact h.countFailure reason
    · next hp => exact hmarked _ hp (.inl rfl)
    · next hp => exact hmarked _ hp (.inr rfl)

theorem steady_restartEnded (s : ComponentStatus) (redactor : Redactor) (result : Except String Unit) :
    (s.restartEnded redactor result).Steady := by
  unfold restartEnded
  cases result with
  | ok _ => exact steady_of_healthy rfl
  | error text => exact steady_degrade _ _

/-- A component that is not down and that reports do not restart is well. -/
theorem Steady.well {s : ComponentStatus} (h : s.Steady) (hdown : s.isDown = false) (hrestarts : s.restarts = false) :
    s.Well := by
  have hboth := hdown
  unfold isDown at hboth
  rw [Bool.or_eq_false_iff, Bool.not_eq_false'] at hboth
  refine ⟨hboth.2, ?_, hboth.1⟩
  by_contra hunhealthy
  rcases h (by simpa using hunhealthy) with hd | hr
  · rw [hdown] at hd
    exact absurd hd (by simp)
  · rw [hrestarts] at hr
    exact absurd hr (by simp)

end ComponentStatus

open ComponentStatus

/-! ## A completed report on one component -/

namespace Component

/-- How the restart of the component ends: as its handler does, or well if it has none. -/
def restartResult (c : Component) (ends : Nat → Except String Unit) : Except String Unit :=
  match c.restart with
  | none => .ok ()
  | some handler => ends handler

/-- The status that a completed report leaves behind. -/
def afterFailure (c : Component) (redactor : Redactor) (error : String) (isCritical : Bool)
    (result : Except String Unit) : ComponentStatus :=
  let first := c.status.reported (redactor.text error) isCritical
  if c.status.restarts then first.restartEnded redactor result else first

/-- The outcome of a completed report. -/
def outcomeOf (c : Component) (isCritical : Bool) (result : Except String Unit) : DegradationOutcome :=
  match c.verdict isCritical, result with
  | .settled outcome, _ => outcome
  | .restarting _, .ok _ => .restarted
  | .restarting _, .error _ => .restartFailed

/-- The handlers that a completed report calls. -/
def handlersCalled (c : Component) : List Nat := if c.status.restarts then c.restart.toList else []

end Component

namespace Registry

variable {r r' : Registry} {name : String} {c : Component}

/-- The first half of a report changes the status of the component to the one reported. -/
theorem beginReport_reported (h : r.find? name = some c) (error : String) (isCritical : Bool) :
    ∃ f : ComponentStatus → ComponentStatus, (∀ s, (f s).name = s.name) ∧
      f c.status = c.status.reported (r.redactor.text error) isCritical ∧
      r.beginReport name error isCritical = .ok (r.modify name f, c.verdict isCritical) := by
  obtain ⟨f, hf, hbegin, -⟩ := beginReport_eq h error isCritical
  obtain ⟨r', hbegin', hupdated⟩ := beginReport_ok h error isCritical
  obtain rfl : r.modify name f = r' := congrArg Prod.fst (Except.ok.inj (hbegin.symm.trans hbegin'))
  have hsame := (updated_modify f hf h).self.symm.trans hupdated.self
  exact ⟨f, hf, congrArg Component.status (Option.some.inj hsame), hbegin⟩

/-- The second half changes it to the one with which the restart has ended. -/
theorem endReport_finished (h : r.find? name = some c) (result : Except String Unit) :
    ∃ f : ComponentStatus → ComponentStatus, (∀ s, (f s).name = s.name) ∧
      f c.status = c.status.restartEnded r.redactor result ∧
      r.endReport name result = .ok ((r.modify name f).refresh.1, (r.modify name f).refresh.2,
        { component := name
          outcome := match result with | .ok _ => .restarted | .error _ => .restartFailed
          status := f c.status
          systemState := (r.modify name f).derive }) := by
  unfold endReport finishRestart ComponentStatus.restartEnded
  cases result with
  | ok _ =>
    have hupdated := updated_modify (·.revive) (fun _ => rfl) h
    refine ⟨(·.revive), fun _ => rfl, rfl, ?_⟩
    dsimp only
    rw [updateStatus_eq h]
    exact concludeReport_ok hupdated.self .restarted
  | error text =>
    have hupdated := updated_modify (·.degrade (Error.restartFailed name (r.redactor.text text)).message)
      (fun _ => rfl) h
    refine ⟨(·.degrade (Error.restartFailed name (r.redactor.text text)).message), fun _ => rfl, ?_, ?_⟩
    · rw [name_of_find? h]
    · dsimp only
      rw [updateStatus_eq h]
      exact concludeReport_ok hupdated.self .restartFailed

/-- A completed report on a registered component changes its status, and refreshes. -/
theorem reportThrough_eq (h : r.find? name = some c) (error : String) (isCritical : Bool)
    (ends : Nat → Except String Unit) :
    ∃ f : ComponentStatus → ComponentStatus, (∀ s, (f s).name = s.name) ∧
      f c.status = c.afterFailure r.redactor error isCritical (c.restartResult ends) ∧
      r.reportThrough name error isCritical ends = .ok
        { registry := (r.modify name f).refresh.1
          events := (r.modify name f).refresh.2
          degradation :=
            { component := name
              outcome := c.outcomeOf isCritical (c.restartResult ends)
              status := f c.status
              systemState := (r.modify name f).derive }
          called := c.handlersCalled } := by
  obtain ⟨f, hf, hreported, hbegin⟩ := beginReport_reported h error isCritical
  have hself := (updated_modify f hf h).self
  unfold Component.afterFailure Component.outcomeOf Component.handlersCalled
  by_cases hrestarts : c.status.restarts = true
  · rw [Component.verdict_of_restarts hrestarts] at hbegin
    obtain ⟨g, hg, hended, hend⟩ := endReport_finished hself (c.restartResult ends)
    have hresult : r.reportThrough name error isCritical ends = .ok
        { registry := ((r.modify name f).modify name g).refresh.1
          events := ((r.modify name f).modify name g).refresh.2
          degradation :=
            { component := name
              outcome := match c.restartResult ends with | .ok _ => .restarted | .error _ => .restartFailed
              status := g (f c.status)
              systemState := ((r.modify name f).modify name g).derive }
          called := c.restart.toList } := by
      unfold reportThrough
      unfold Component.restartResult at hend ⊢
      cases hhandler : c.restart with
      | none =>
        rw [hhandler] at hbegin hend
        simp only [hbegin, hend, bind, Except.bind]
        rfl
      | some handler =>
        rw [hhandler] at hbegin hend
        simp only [hbegin, hend, bind, Except.bind]
        rfl
    rw [modify_modify f g hf] at hresult
    refine ⟨g ∘ f, fun s => (hg (f s)).trans (hf s), ?_, ?_⟩
    · rw [if_pos hrestarts, ← hreported]
      exact hended
    · rw [if_pos hrestarts, Component.verdict_of_restarts hrestarts, hresult]
      cases c.restartResult ends <;> rfl
  · rw [Bool.not_eq_true] at hrestarts
    obtain ⟨outcome, hverdict⟩ := Component.verdict_of_not_restarts hrestarts isCritical
    rw [hverdict] at hbegin
    refine ⟨f, hf, ?_, ?_⟩
    · rw [if_neg (by simp [hrestarts])]
      exact hreported
    · rw [if_neg (by simp [hrestarts]), hverdict]
      unfold reportThrough
      simp only [hbegin, concludeReport_ok hself, bind, Except.bind]
      rfl

theorem reportThrough_none (h : r.find? name = none) (error : String) (isCritical : Bool)
    (ends : Nat → Except String Unit) :
    r.reportThrough name error isCritical ends = .error (.componentNotFound name) := by
  unfold reportThrough
  rw [beginReport_none h]
  rfl

/-- A report that has run to its end was settled at once, or it restarted the component, at once or by its handler. -/
theorem reportThrough_cases {error : String} {isCritical : Bool} {ends : Nat → Except String Unit}
    {finished : FinishedReport} (h : r.reportThrough name error isCritical ends = .ok finished) :
    ∃ begun reported, r.beginReport name error isCritical = .ok (begun, reported) ∧
      ((∃ outcome, reported = .settled outcome ∧ finished.called = [] ∧ begun.concludeReport name outcome =
          .ok (finished.registry, finished.events, finished.degradation)) ∨
        (reported = .restarting none ∧ finished.called = [] ∧ begun.endReport name (.ok ()) =
          .ok (finished.registry, finished.events, finished.degradation)) ∨
        ∃ handler, reported = .restarting (some handler) ∧ finished.called = [handler] ∧
          begun.endReport name (ends handler) =
            .ok (finished.registry, finished.events, finished.degradation)) := by
  -- Each half was carried out, and its result is what the report goes on with.
  have hbind : ∀ {α β : Type} {x : Except Error α} {f : α → Except Error β} {b : β}, x >>= f = .ok b →
      ∃ a, x = .ok a ∧ f a = .ok b := by
    intro α β x f b hx
    cases x with
    | error e => exact absurd hx (by simp [bind, Except.bind])
    | ok a => exact ⟨a, rfl, hx⟩
  obtain ⟨⟨begun, reported⟩, hbegin, h⟩ := hbind h
  refine ⟨begun, reported, hbegin, ?_⟩
  match reported, h with
  | .settled outcome, h =>
    obtain ⟨⟨r', events, d⟩, hconclude, h⟩ := hbind h
    obtain rfl := Except.ok.inj h
    exact .inl ⟨outcome, rfl, rfl, hconclude⟩
  | .restarting none, h =>
    obtain ⟨⟨r', events, d⟩, hend, h⟩ := hbind h
    obtain rfl := Except.ok.inj h
    exact .inr (.inl ⟨rfl, rfl, hend⟩)
  | .restarting (some handler), h =>
    obtain ⟨⟨r', events, d⟩, hend, h⟩ := hbind h
    obtain rfl := Except.ok.inj h
    exact .inr (.inr ⟨handler, rfl, rfl, hend⟩)

/-! ## One status over another -/

/-- The registry with a status put over the one that has its name. -/
def put (r : Registry) (status : ComponentStatus) : Registry := r.modify status.name fun _ => status

/-- Where names are unique, changing the status of a component is putting another one over it. -/
theorem modify_eq_put {f : ComponentStatus → ComponentStatus} (hunique : r.UniqueNames)
    (hf : ∀ s, (f s).name = s.name) (h : r.find? name = some c) : r.modify name f = r.put (f c.status) := by
  have hname : (f c.status).name = name := (hf c.status).trans (name_of_find? h)
  unfold put
  rw [hname]
  unfold modify
  dsimp only
  congr 1
  refine List.map_congr_left fun other hother => ?_
  by_cases hthis : other.status.name = name
  · obtain rfl := eq_of_names hunique h hother hthis
    rfl
  · rw [if_neg hthis, if_neg hthis]

/-- Statuses of two names can be put in either order. -/
theorem put_comm {status other : ComponentStatus} (hne : status.name ≠ other.name) :
    (r.put status).put other = (r.put other).put status := by
  unfold put modify
  dsimp only
  rw [List.map_map, List.map_map]
  congr 1
  refine List.map_congr_left fun c _ => ?_
  dsimp only [Function.comp]
  -- At most one of the two statuses is for this component.
  by_cases hstatus : c.status.name = status.name
  · have hother : c.status.name ≠ other.name := fun heq => hne (hstatus.symm.trans heq)
    simp [hstatus, hne]
  · by_cases hother : c.status.name = other.name
    · simp [hother, Ne.symm hne]
    · simp [hstatus, hother]

theorem put_eq (r : Registry) (status : ComponentStatus) :
    r.put status = r.modify status.name fun s => { status with name := s.name } := by
  unfold put modify
  dsimp only
  congr 1
  refine List.map_congr_left fun c _ => ?_
  by_cases hname : c.status.name = status.name
  · rw [if_pos hname, if_pos hname, hname]
  · rw [if_neg hname, if_neg hname]

/-- What becomes of the registry when a call leaves a component with a status, or when it fails. -/
def receive (r : Registry) : Option ComponentStatus → Registry
  | none => r
  | some status => (r.put status).refresh.1

theorem uniqueNames_receive (h : r.UniqueNames) (status : Option ComponentStatus) : (r.receive status).UniqueNames := by
  cases status with
  | none => exact h
  | some status =>
    show (r.put status).UniqueNames
    rw [put_eq]
    exact uniqueNames_modify (fun _ => rfl) h

theorem find?_receive_ne {status : Option ComponentStatus} (hne : ∀ s ∈ status, name ≠ s.name) :
    (r.receive status).find? name = r.find? name := by
  cases status with
  | none => rfl
  | some status =>
    show (r.put status).find? name = r.find? name
    rw [put_eq, find?_modify (fun s => { status with name := s.name }) (fun _ => rfl)]
    have hother : name ≠ status.name := hne status rfl
    simp [hother]

theorem redactor_receive (r : Registry) (status : Option ComponentStatus) :
    (r.receive status).redactor = r.redactor := by
  cases status <;> rfl

/-- The system state is derived anew after each call, so that of the calls on two components either may be first. -/
theorem receive_comm {first second : Option ComponentStatus} (hne : ∀ s ∈ first, ∀ t ∈ second, s.name ≠ t.name) :
    (r.receive first).receive second = (r.receive second).receive first := by
  cases first with
  | none => rfl
  | some s =>
    cases second with
    | none => rfl
    | some t =>
      have hput : (r.put s).put t = (r.put t).put s := put_comm (hne s rfl t rfl)
      show ((r.put s).put t).refresh.1 = ((r.put t).put s).refresh.1
      rw [hput]

end Registry

/-! ## Calls on several components -/

/-- A call on one component that runs to its end before the next one comes. -/
inductive ComponentCall where
  | report (name error : String) (isCritical : Bool)
  | reset (name : String)
deriving DecidableEq

namespace ComponentCall

def component : ComponentCall → String
  | .report name _ _ => name
  | .reset name => name

/-- The status that a call leaves its component with, when the handler of the component ends with a result. -/
def statusAfter (call : ComponentCall) (c : Component) (redactor : Redactor) (result : Except String Unit) :
    ComponentStatus :=
  match call with
  | .report _ error isCritical => c.afterFailure redactor error isCritical (c.restartResult fun _ => result)
  | .reset _ => c.status.reset

end ComponentCall

/-- How the handler of a component ends, by the calls that have come so far, the latest first. -/
abbrev RestartAnswers := List ComponentCall → String → Except String Unit

/-- Every handler goes by the calls on its own component. -/
def RestartAnswers.Separate (answers : RestartAnswers) : Prop :=
  ∀ name past past', past.filter (·.component = name) = past'.filter (·.component = name) →
    answers past name = answers past' name

/-- A registry with the calls that have come so far, the latest first. -/
structure AttendedRegistry where
  registry : Registry
  past : List ComponentCall

namespace AttendedRegistry

open Registry

/-- Carries a call out. One that fails changes nothing. -/
def carryOut (answers : RestartAnswers) (a : AttendedRegistry) (call : ComponentCall) : AttendedRegistry :=
  let past := call :: a.past
  let registry := match call with
    | .report name error isCritical =>
      match a.registry.reportThrough name error isCritical fun _ => answers past name with
      | .ok finished => finished.registry
      | .error _ => a.registry
    | .reset name =>
      match a.registry.reset name with
      | .ok (registry, _, _) => registry
      | .error _ => a.registry
  { registry, past }

/-- The status that a call leaves its component with, if it is registered. -/
def status? (answers : RestartAnswers) (a : AttendedRegistry) (call : ComponentCall) : Option ComponentStatus :=
  (a.registry.find? call.component).map fun c =>
    call.statusAfter c a.registry.redactor (answers (call :: a.past) call.component)

variable {answers : RestartAnswers} {a : AttendedRegistry} {call first second : ComponentCall}

theorem reportThrough_receive {r : Registry} (hunique : r.UniqueNames) (name error : String) (isCritical : Bool)
    (ends : Nat → Except String Unit) :
    (match r.reportThrough name error isCritical ends with
      | .ok finished => finished.registry
      | .error _ => r) =
      r.receive ((r.find? name).map fun c => c.afterFailure r.redactor error isCritical (c.restartResult ends)) := by
  cases hfind : r.find? name with
  | none =>
    rw [reportThrough_none hfind]
    rfl
  | some c =>
    obtain ⟨f, hf, hstatus, hreport⟩ := reportThrough_eq hfind error isCritical ends
    rw [hreport]
    dsimp only
    rw [modify_eq_put hunique hf hfind, hstatus]
    rfl

theorem reset_receive {r : Registry} (hunique : r.UniqueNames) (name : String) :
    (match r.reset name with
      | .ok (registry, _, _) => registry
      | .error _ => r) = r.receive ((r.find? name).map fun c => c.status.reset) := by
  cases hfind : r.find? name with
  | none =>
    rw [reset_none hfind]
    rfl
  | some c =>
    rw [reset_eq hfind]
    dsimp only
    rw [modify_eq_put (f := ComponentStatus.reset) hunique (fun _ => rfl) hfind]
    rfl

/-- A call puts a status over that of its component. -/
theorem carryOut_registry (hunique : a.registry.UniqueNames) (call : ComponentCall) :
    (a.carryOut answers call).registry = a.registry.receive (a.status? answers call) := by
  cases call with
  | report name error isCritical => exact reportThrough_receive hunique name error isCritical _
  | reset name => exact reset_receive hunique name

theorem name_of_status? {status : ComponentStatus} (h : a.status? answers call = some status) :
    status.name = call.component := by
  unfold status? at h
  obtain ⟨c, hfind, rfl⟩ := Option.map_eq_some_iff.mp h
  rw [← name_of_find? hfind]
  cases call with
  | reset name => rfl
  | report name error isCritical =>
    have hreported := c.status.continues_reported (a.registry.redactor.text error) isCritical
    unfold ComponentCall.statusAfter Component.afterFailure
    dsimp only
    split
    · unfold restartEnded
      split <;> exact hreported.name
    · exact hreported.name

/-- A call on one component makes no difference to a call on another. -/
theorem status?_carryOut (hanswers : answers.Separate) (hunique : a.registry.UniqueNames)
    (hne : first.component ≠ second.component) :
    (a.carryOut answers first).status? answers second = a.status? answers second := by
  have hpast : (second :: (a.carryOut answers first).past).filter (·.component = second.component) =
      (second :: a.past).filter (·.component = second.component) := by
    show (second :: first :: a.past).filter _ = _
    simp [hne]
  have hothers : ∀ s ∈ a.status? answers first, second.component ≠ s.name := by
    intro s hs heq
    rw [name_of_status? hs] at heq
    exact hne heq.symm
  unfold status?
  rw [hanswers _ _ _ hpast, carryOut_registry hunique, find?_receive_ne hothers, redactor_receive]

/-- Calls on two components can be swapped, if their handlers know nothing of each other. -/
theorem carryOut_comm (hanswers : answers.Separate) (hunique : a.registry.UniqueNames)
    (hne : first.component ≠ second.component) :
    ((a.carryOut answers first).carryOut answers second).registry =
      ((a.carryOut answers second).carryOut answers first).registry := by
  have hfirst : (a.carryOut answers first).registry = a.registry.receive (a.status? answers first) :=
    carryOut_registry hunique first
  have hsecond : (a.carryOut answers second).registry = a.registry.receive (a.status? answers second) :=
    carryOut_registry hunique second
  have hunique' : (a.carryOut answers first).registry.UniqueNames := by
    rw [hfirst]
    exact uniqueNames_receive hunique _
  have hunique'' : (a.carryOut answers second).registry.UniqueNames := by
    rw [hsecond]
    exact uniqueNames_receive hunique _
  rw [carryOut_registry hunique', carryOut_registry hunique'', status?_carryOut hanswers hunique hne,
    status?_carryOut hanswers hunique (Ne.symm hne), hfirst, hsecond]
  refine receive_comm fun s hs t ht heq => hne ?_
  rw [← name_of_status? hs, ← name_of_status? ht]
  exact heq

end AttendedRegistry

/-! ## The diagram -/

/-- The failure diagram, for a component whose failure is reported: what becomes of its status, what the outcome of the
report is, and which handlers are called. `ends` tells how the handlers end. -/
structure FailureDiagram (c : Component) (reason : String) (isCritical : Bool) (ends : Nat → Except String Unit)
    (status : ComponentStatus) (outcome : DegradationOutcome) (called : List Nat) : Prop where
  /-- A component that is down stays where it is; the failure is counted and its reason kept. -/
  down : c.status.isDown = true →
    outcome = .recorded ∧ called = [] ∧
      status = { c.status with errorCount := c.status.errorCount + 1, reason := some reason }
  low : c.status.isDown = false → c.status.priority = .low →
    outcome = .disabled ∧ called = [] ∧ status.Disabled
  mediumCritical : c.status.isDown = false → c.status.priority = .medium → isCritical = true →
    outcome = .degraded ∧ called = [] ∧ status.Impaired
  medium : c.status.isDown = false → c.status.priority = .medium → isCritical = false →
    outcome = .recorded ∧ called = [] ∧ status.Well
  /-- One that is restarted is well again, unless it has a handler that fails; its handler is called once. -/
  restarted : c.status.isDown = false → (c.status.priority = .high ∨ c.status.priority = .critical) →
    (∀ handler ∈ c.restart, ends handler = .ok ()) →
    outcome = .restarted ∧ called = c.restart.toList ∧ status.Well
  restartFailed : c.status.isDown = false → (c.status.priority = .high ∨ c.status.priority = .critical) →
    ∀ handler ∈ c.restart, ∀ text, ends handler = .error text →
    outcome = .restartFailed ∧ called = [handler] ∧ status.Impaired
  /-- In any case one failure more is counted, for the same component. -/
  continues : c.status.Continues 1 status

theorem not_restarts_of_isDown {s : ComponentStatus} (h : s.isDown = true) : s.restarts = false := by
  unfold restarts
  simp [h]

theorem restarts_iff {s : ComponentStatus} (hdown : s.isDown = false) :
    s.restarts = true ↔ s.priority = .high ∨ s.priority = .critical := by
  unfold restarts
  simp [hdown]

theorem continues_afterFailure (c : Component) (redactor : Redactor) (error : String) (isCritical : Bool)
    (result : Except String Unit) : c.status.Continues 1 (c.afterFailure redactor error isCritical result) := by
  have hreported := c.status.continues_reported (redactor.text error) isCritical
  unfold Component.afterFailure
  dsimp only
  split
  · unfold restartEnded
    split <;> exact ⟨hreported.name, hreported.priority, hreported.errorCount⟩
  · exact hreported

theorem active_of_not_isDown {s : ComponentStatus} (hdown : s.isDown = false) : s.active = true := by
  unfold isDown at hdown
  rw [Bool.or_eq_false_iff, Bool.not_eq_false'] at hdown
  exact hdown.2

/-- A completed report does what the diagram says, to a component that is steady. -/
theorem failureDiagram_of_steady {c : Component} (hsteady : c.status.Steady) (redactor : Redactor) (error : String)
    (isCritical : Bool) (ends : Nat → Except String Unit) :
    FailureDiagram c (redactor.text error) isCritical ends
      (c.afterFailure redactor error isCritical (c.restartResult ends))
      (c.outcomeOf isCritical (c.restartResult ends)) c.handlersCalled where
  down := by
    intro hdown
    unfold Component.afterFailure Component.outcomeOf Component.handlersCalled Component.verdict
      ComponentStatus.reported
    rw [not_restarts_of_isDown hdown, if_pos hdown, if_pos hdown]
    exact ⟨rfl, rfl, rfl⟩
  low := by
    intro hdown hp
    have hrestarts : c.status.restarts = false := by simp [restarts, hp]
    unfold Component.afterFailure Component.outcomeOf Component.handlersCalled Component.verdict
      ComponentStatus.reported
    rw [hrestarts, hdown, hp]
    exact ⟨rfl, rfl, rfl, rfl, rfl⟩
  mediumCritical := by
    rintro hdown hp rfl
    have hrestarts : c.status.restarts = false := by simp [restarts, hp]
    have hactive := active_of_not_isDown hdown
    unfold Component.afterFailure Component.outcomeOf Component.handlersCalled Component.verdict
      ComponentStatus.reported
    rw [hrestarts, hdown, hp]
    exact ⟨rfl, rfl, hactive, rfl, rfl⟩
  medium := by
    rintro hdown hp rfl
    have hrestarts : c.status.restarts = false := by simp [restarts, hp]
    have hwell := hsteady.well hdown hrestarts
    unfold Component.afterFailure Component.outcomeOf Component.handlersCalled Component.verdict
      ComponentStatus.reported
    rw [hrestarts, hdown, hp]
    exact ⟨rfl, rfl, hwell.active, hwell.healthy, hwell.degraded⟩
  restarted := by
    intro hdown hp hends
    have hrestarts := (restarts_iff hdown).mpr hp
    have hresult : c.restartResult ends = .ok () := by
      unfold Component.restartResult
      cases hhandler : c.restart with
      | none => rfl
      | some handler => exact hends handler hhandler
    unfold Component.afterFailure Component.outcomeOf Component.handlersCalled
    rw [Component.verdict_of_restarts hrestarts, hresult, if_pos hrestarts, if_pos hrestarts]
    exact ⟨rfl, rfl, rfl, rfl, rfl⟩
  restartFailed := by
    intro hdown hp handler hhandler text hends
    have hrestarts := (restarts_iff hdown).mpr hp
    have hresult : c.restartResult ends = .error text := by
      unfold Component.restartResult
      rw [hhandler]
      exact hends
    -- Between the two halves of the report the component keeps running.
    have hactive : (c.status.reported (redactor.text error) isCritical).active = true := by
      unfold ComponentStatus.reported
      rw [hdown]
      rcases hp with hp | hp <;> (rw [hp]; exact active_of_not_isDown hdown)
    unfold Component.afterFailure Component.outcomeOf Component.handlersCalled
    rw [Component.verdict_of_restarts hrestarts, hresult, if_pos hrestarts, if_pos hrestarts, hhandler]
    exact ⟨rfl, rfl, hactive, rfl, rfl⟩
  continues := continues_afterFailure c redactor error isCritical _

namespace SharedRegistry

open Registry

variable {s : SharedRegistry} {name : String} {c : Component}

theorem steady_after (h : c.status.Steady) (call : RegistryCall) : (s.after c call).Steady := by
  unfold after
  cases call with
  | report name error isCritical =>
    dsimp only
    split
    · unfold Component.afterReport
      dsimp only
      split
      · exact steady_of_healthy rfl
      · exact h.reported _ _
    · exact h
  | restartEnded index result =>
    dsimp only
    split
    · exact steady_restartEnded _ _ result
    · exact h
  | reset name =>
    dsimp only
    split
    · exact steady_of_healthy rfl
    · exact h
  | disablePriority priority reason =>
    dsimp only
    split
    · exact steady_disable _ reason
    · exact h
  | _ => exact h

theorem steady_play {resources : ResourceSettings} {redactor : Redactor} {calls : List RegistryCall}
    (hfind : ((new resources redactor).play calls).registry.find? name = some c) : c.status.Steady := by
  induction calls using List.reverseRecOn generalizing c with
  | nil => exact absurd hfind (by simp [play, new, Registry.new, Registry.find?])
  | append_singleton calls call ih =>
    rw [play_concat] at hfind
    rcases find?_of_step hfind with ⟨-, priority, restart, -, rfl⟩ | ⟨c', hbefore, rfl⟩
    · exact steady_of_healthy rfl
    · exact steady_after (ih hbefore) call

/-- A completed report is a report, and the end of the handler that it waits for if it calls one. -/
theorem play_reportThrough {error : String} {isCritical : Bool} {ends : Nat → Except String Unit}
    {finished : FinishedReport} (h : s.registry.reportThrough name error isCritical ends = .ok finished) :
    s.play (.report name error isCritical ::
        finished.called.map fun handler => .restartEnded s.waiting.length (ends handler)) =
      s.changed finished.registry finished.events := by
  obtain ⟨begun, reported, hbegin, ⟨outcome, rfl, hcalled, hend⟩ | ⟨rfl, hcalled, hend⟩ | ⟨handler, rfl, hcalled, hend⟩⟩ :=
    reportThrough_cases h
  · rw [hcalled]
    have hcall : s.call (.report name error isCritical) = .ok (s.changed finished.registry finished.events) := by
      simp only [call, hbegin, hend, bind, Except.bind]
    exact step_of_call hcall
  · rw [hcalled]
    have hcall : s.call (.report name error isCritical) = .ok (s.changed finished.registry finished.events) := by
      simp only [call, hbegin, hend, bind, Except.bind]
    exact step_of_call hcall
  · -- The report waits behind all the others.
    let report : WaitingReport := ⟨name, handler⟩
    have hcall : s.call (.report name error isCritical) =
        .ok { s with registry := begun, waiting := s.waiting ++ [report] } := by
      simp only [call, hbegin, bind, Except.bind]
      rfl
    have hended : SharedRegistry.call { s with registry := begun, waiting := s.waiting ++ [report] }
        (.restartEnded s.waiting.length (ends handler)) = .ok (s.changed finished.registry finished.events) := by
      have hlast : (s.waiting ++ [report])[s.waiting.length]? = some report := by simp
      have herase : (s.waiting ++ [report]).eraseIdx s.waiting.length = s.waiting := by
        rw [List.eraseIdx_append_of_length_le (Nat.le_refl _), Nat.sub_self]
        simp
      simp only [call, hlast, report, hend, bind, Except.bind]
      exact congrArg (fun waiting => Except.ok { s.changed finished.registry finished.events with waiting }) herase
    rw [hcalled]
    show (s.step (.report name error isCritical)).step (.restartEnded s.waiting.length (ends handler)) = _
    rw [step_of_call hcall, step_of_call hended]

/-- **The failure diagram.** After every run of calls to a registry, whatever restarts are under way, a report on a
registered component that runs to its end does to this component what the failure diagram says, and the result tells the
status it leaves behind. Every other component, all resources and the consistency flag stay as they are.

If every restart handler goes by the calls on its own component only, then calls on two components that run to their end,
reports or resets, can be swapped: the registry is the same in the end. Calls are over at once here, but for the restart
handlers that they wait for. -/
theorem reportThrough_diagram (resources : ResourceSettings) (redactor : Redactor) (calls : List RegistryCall) :
    let s := (new resources redactor).play calls
    (∀ name c, s.registry.find? name = some c → ∀ error isCritical ends,
      ∃ finished status, s.registry.reportThrough name error isCritical ends = .ok finished ∧
        s.play (.report name error isCritical ::
          finished.called.map fun handler => .restartEnded s.waiting.length (ends handler)) =
            s.changed finished.registry finished.events ∧
        FailureDiagram c (redactor.text error) isCritical ends status finished.degradation.outcome finished.called ∧
        finished.degradation.status = status ∧
        finished.registry.find? name = some (c.withStatus status) ∧
        (∀ other, other ≠ name → finished.registry.find? other = s.registry.find? other) ∧
        finished.registry.names = s.registry.names ∧
        finished.registry.resources = s.registry.resources ∧
        finished.registry.consistent = s.registry.consistent) ∧
    ∀ answers : RestartAnswers, answers.Separate → ∀ past first second,
      ComponentCall.component first ≠ second.component →
        (((⟨s.registry, past⟩ : AttendedRegistry).carryOut answers first).carryOut answers second).registry =
          (((⟨s.registry, past⟩ : AttendedRegistry).carryOut answers second).carryOut answers first).registry := by
  intro s
  have hredactor : s.registry.redactor = redactor := redactor_play _ calls
  have hunique : s.registry.UniqueNames := uniqueNames_play (s := new resources redactor) List.nodup_nil calls
  constructor
  · intro name c hfind error isCritical ends
    obtain ⟨f, hf, hstatus, hreport⟩ := reportThrough_eq hfind error isCritical ends
    have hupdated := (updated_modify f hf hfind).refresh
    refine ⟨_, f c.status, hreport, play_reportThrough hreport, ?_, rfl, hupdated.self, hupdated.others,
      names_modify f hf _ name, rfl, rfl⟩
    rw [hstatus, hredactor]
    exact failureDiagram_of_steady (steady_play hfind) redactor error isCritical ends
  · intro answers hanswers past first second hne
    exact AttendedRegistry.carryOut_comm hanswers hunique hne

/-- A component with a handler, and another one whose restart is under way. -/
def restartUnderWay : List RegistryCall :=
  [.register "executor" .critical (some 7), .register "feed" .high (some 8), .report "feed" "stale" false]

/-- A handler that fails at the first call on its component and from then on does its work. -/
def failsAtFirst : RestartAnswers := fun past name =>
  if (past.filter (·.component = name)).length ≤ 1 then .error "refused" else .ok ()

theorem separate_failsAtFirst : failsAtFirst.Separate := by
  intro name past past' h
  unfold failsAtFirst
  rw [h]

/-- The handler of the component is called once and fails; the other component keeps waiting for its own. A report on
either can come before that on the other. -/
theorem reportThrough_diagram_refused :
    let s := (new Settings.default.resources ⟨false⟩).play restartUnderWay
    let status : ComponentStatus :=
      { fresh "executor" .critical with
        healthy := false, errorCount := 1, degraded := true, reason := some "Restart failed for executor: refused" }
    (∃ finished, s.registry.reportThrough "executor" "lost" true (fun _ => .error "refused") = .ok finished ∧
      finished.degradation.outcome = .restartFailed ∧ finished.called = [7] ∧
      finished.degradation.status = status ∧ status.Impaired ∧
      finished.registry.find? "feed" = s.registry.find? "feed") ∧
    (((⟨s.registry, []⟩ : AttendedRegistry).carryOut failsAtFirst (.report "executor" "lost" true)).carryOut
        failsAtFirst (.report "feed" "stale" false)).registry =
      (((⟨s.registry, []⟩ : AttendedRegistry).carryOut failsAtFirst (.report "feed" "stale" false)).carryOut
        failsAtFirst (.report "executor" "lost" true)).registry := by
  intro s status
  obtain ⟨hdiagram, hswap⟩ := reportThrough_diagram Settings.default.resources ⟨false⟩ restartUnderWay
  have hfind : s.registry.find? "executor" = some ⟨fresh "executor" .critical, some 7⟩ := by decide
  obtain ⟨finished, status', hreport, -, hfollows, hstatus, -, hothers, -⟩ :=
    hdiagram "executor" _ hfind "lost" true (fun _ => .error "refused")
  obtain ⟨houtcome, hcalled, himpaired⟩ := hfollows.restartFailed rfl (.inr rfl) 7 rfl "refused" rfl
  have hsame : (s.registry.reportThrough "executor" "lost" true fun _ => .error "refused").toOption.map
      (fun finished => finished.degradation.status) = some status := by decide
  rw [hreport] at hsame
  have hends : finished.degradation.status = status := Option.some.inj hsame
  refine ⟨⟨finished, hreport, houtcome, hcalled, hends, ?_, hothers "feed" (by decide)⟩, ?_⟩
  · rw [← hends, hstatus]
    exact himpaired
  · exact hswap failsAtFirst separate_failsAtFirst [] _ _ (by decide)

end SharedRegistry

end Failsafe
