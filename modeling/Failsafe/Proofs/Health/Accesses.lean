import Failsafe.Proofs.Health.Evolution
import Failsafe.Proofs.Health.Status

/-!
# The registry, one access at a time

A call is more than one access to the registry: a report looks its component up to count the failure, to degrade or
disable it or to note that it is down, to note how the restart went, and once more for the result; and every refresh
derives the system state in one access and writes it in another. Between two accesses of a call anything may happen:
other calls begin, go on, are dropped, and restart handlers end. An access that is refused takes nothing back of what
the call wrote before it.

Here a call is the `Course` of its accesses, and `BusyRegistry` plays any number of courses, interleaved in any way. A
course that runs alone does what the call does in one go (`SharedRegistry.call_eq_alone`,
`SharedRegistry.call_restartEnded_eq_alone`).

Only the first access of a call can be refused. After it a call looks up none but names that were in use then, and names
are never given up; a course is `Secure` for the names that it looks up.
-/

namespace Failsafe

/-- What is left of a call to do. -/
inductive Course where
  | ended
  /-- One access, which may be refused, and what follows, depending on the registry as the access found it. -/
  | access (act : Registry → Except Error (Registry × List Event)) (next : Registry → Course)
  /-- The restart handler has been called and has not ended. -/
  | restart (report : WaitingReport)

/-- The error that a call is refused with: there are four reasons. -/
def Refused (r : Registry) (e : Error) : RegistryCall → Prop
  | .register name _ _ => name ∈ r.names ∧ e = .duplicateComponent name
  | .report name _ _ | .reset name => name ∉ r.names ∧ e = .componentNotFound name
  | .setThresholds kind t =>
    (t.warning.isNaN = true ∨ t.critical.isNaN = true ∨ t.warning ≥ t.critical) ∧
      e = .invalidThreshold kind.name t.warning t.critical
  | .disablePriority _ _ | .updateResource _ _ | .setConsistent _ | .restartEnded _ _ | .reportDropped _ => False

namespace Registry

/-- Writes a system state, which is an event if it is another one. -/
def setState (r : Registry) (state : SystemState) : Registry × List Event :=
  ({ r with state }, if r.state = state then [] else [.stateChanged r.state state])

theorem refresh_eq_setState (r : Registry) : r.refresh = r.setState r.derive := rfl

theorem updateStatus_none {r : Registry} {name : String} (h : r.find? name = none)
    (f : ComponentStatus → ComponentStatus) : r.updateStatus name f = .error (.componentNotFound name) := by
  unfold updateStatus
  rw [h]

/-- The end of a restart changes the status of one component. -/
theorem finishRestart_eq {r : Registry} {name : String} {c : Component} (h : r.find? name = some c)
    (result : Except String Unit) : ∃ f outcome, (∀ s : ComponentStatus, s.Settles (f s)) ∧
      r.finishRestart name result = .ok (r.modify name f, outcome) := by
  unfold finishRestart
  cases result with
  | ok _ =>
    refine ⟨(·.revive), .restarted, fun _ => .revived, ?_⟩
    dsimp only
    rw [updateStatus_eq h]
    rfl
  | error text =>
    refine ⟨(·.degrade (Error.restartFailed name (r.redactor.text text)).message), .restartFailed,
      fun _ => .degraded _, ?_⟩
    dsimp only
    rw [updateStatus_eq h]
    rfl

end Registry

namespace Course

/-- Changes the status of a registered component. -/
def update (name : String) (f : ComponentStatus → ComponentStatus) (next : Course) : Course :=
  .access (fun r => (r.updateStatus name f).map (·, [])) fun _ => next

/-- Derives the system state, and writes it when others may have come in between. -/
def refresh (next : Course) : Course :=
  .access (fun r => .ok (r, [])) fun found => .access (fun r => .ok (r.setState found.derive)) fun _ => next

/-- The end of a report. -/
def conclude (name : String) : Course :=
  refresh (.access (fun r => (r.status name).map fun _ => (r, [])) fun _ => .ended)

/-- A report whose restart has ended. -/
def finish (name : String) (result : Except String Unit) : Course :=
  .access (fun r => (r.finishRestart name result).map fun (r, _) => (r, [])) fun _ => conclude name

/-- Without a handler the restart is over at once. -/
def restarting (name : String) : Option Nat → Course
  | some handler => .restart ⟨name, handler⟩
  | none => finish name (.ok ())

/-- A report whose failure has been counted, on the component that was found then. -/
def treat (name reason : String) (isCritical : Bool) (c : Component) : Course :=
  if c.status.isDown then conclude name
  else match c.status.priority with
    | .low => update name (·.disable reason) (conclude name)
    | .medium => if isCritical then update name (·.degrade reason) (conclude name) else conclude name
    | .high | .critical => update name (fun s => { s with healthy := false }) (restarting name c.restart)

end Course

/-- The accesses of a call. The end of a restart and the end of a report that is dropped are no calls of their own. -/
def RegistryCall.course? : RegistryCall → Option Course
  | .register name priority restart =>
    some <| .access (fun r =>
      match r.find? name with
      | some _ => .error (.duplicateComponent name)
      | none => .ok ({ r with components := Registry.insertByName ⟨.fresh name priority, restart⟩ r.components }, []))
      fun _ => .refresh .ended
  | .report name error isCritical =>
    some <| .access (fun r => (r.updateStatus name (·.countFailure (r.redactor.text error))).map (·, [])) fun found =>
      match found.find? name with
      | some c => .treat name (found.redactor.text error) isCritical c
      | none => .ended
  | .reset name => some <| .update name (·.reset) (.refresh .ended)
  | .disablePriority priority reason =>
    some <| .access (fun r =>
      let change (c : Component) :=
        if Registry.isActiveOf priority c then { c with status := c.status.disable reason } else c
      .ok ({ r with components := r.components.map change }, []))
      fun found => if found.components.any (Registry.isActiveOf priority) then .refresh .ended else .ended
  | .updateResource kind usage =>
    some <| .access (fun r =>
      .ok ({ r with resources := r.resources.set kind { r.resources.get kind with usage, updated := true } }, []))
      fun _ => .refresh .ended
  | .setThresholds kind thresholds =>
    some <| .access (fun r =>
      if thresholds.warning.isNaN || thresholds.critical.isNaN || thresholds.warning ≥ thresholds.critical then
        .error (.invalidThreshold kind.name thresholds.warning thresholds.critical)
      else .ok ({ r with resources := r.resources.set kind { r.resources.get kind with thresholds } }, []))
      fun _ => .refresh .ended
  | .setConsistent consistent => some <| .access (fun r => .ok ({ r with consistent }, [])) fun _ => .refresh .ended
  | .restartEnded _ _ | .reportDropped _ => none

/-- A registry with the calls under way, the restarts that handlers have been called for, and the events so far. -/
structure BusyRegistry where
  registry : Registry
  underWay : List Course
  called : List WaitingReport
  events : List Event

namespace BusyRegistry

/-- What can happen next. A call that waits for its first access has not begun. -/
inductive Move where
  | begin (call : RegistryCall)
  /-- A call under way makes its next access. -/
  | goOn (index : Nat)
  | handlerEnded (index : Nat) (result : Except String Unit)
  | dropped (index : Nat)

def new (resources : ResourceSettings) (redactor : Redactor) : BusyRegistry :=
  { registry := .new resources redactor, underWay := [], called := [], events := [] }

/-- What is left of a call, among those under way. -/
def pending : Course → List Course
  | .ended => []
  | course => [course]

/-- The restart that a call has come to. -/
def calls : Course → List WaitingReport
  | .restart report => [report]
  | _ => []

/-- The next access of a call that stands between others, and the error it ends with. -/
def perform (b : BusyRegistry) (front back : List Course) : Course → BusyRegistry × Option Error
  | .access act next =>
    match act b.registry with
    | .ok (registry, events) =>
      ({ registry
         underWay := front ++ pending (next b.registry) ++ back
         called := b.called ++ calls (next b.registry)
         events := b.events ++ events }, none)
    | .error e => ({ b with underWay := front ++ back }, some e)
  | .restart _ | .ended => (b, none)

def move (b : BusyRegistry) : Move → BusyRegistry × Option Error
  | .begin call =>
    match call.course? with
    | some course => b.perform b.underWay [] course
    | none => (b, none)
  | .goOn index =>
    match b.underWay[index]? with
    | some course => b.perform (b.underWay.take index) (b.underWay.drop (index + 1)) course
    | none => (b, none)
  | .handlerEnded index result =>
    match b.underWay[index]? with
    | some (.restart report) =>
      ({ b with underWay := b.underWay.set index (.finish report.component result) }, none)
    | _ => (b, none)
  | .dropped index => ({ b with underWay := b.underWay.eraseIdx index }, none)

def play (b : BusyRegistry) (moves : List Move) : BusyRegistry := moves.foldl (fun b m => (b.move m).1) b

end BusyRegistry

/-! ## Calls that are past their first access -/

namespace Course

variable {names names' : List String} {name : String} {next : Course}

/-- In a registry in which the names are in use no access is refused, and none gives a name up. -/
def Secure (names : List String) : Course → Prop
  | .ended => True
  | .access act next => ∀ r, names ⊆ r.names →
    ∃ r' events, act r = .ok (r', events) ∧ r.names ⊆ r'.names ∧ (next r).Secure names
  | .restart report => report.component ∈ names

theorem Secure.mono {course : Course} (h : course.Secure names) (hsub : names ⊆ names') : course.Secure names' := by
  induction course with
  | ended => trivial
  | restart report => exact hsub h
  | access act next ih =>
    intro r hr
    obtain ⟨r', events, hact, hnames, hnext⟩ := h r (List.Subset.trans hsub hr)
    exact ⟨r', events, hact, hnames, ih r hnext⟩

theorem secure_access {act : Registry → Except Error (Registry × List Event)} {next : Registry → Course}
    (hact : ∀ r, names ⊆ r.names → ∃ r', act r = .ok (r', []) ∧ r'.names = r.names)
    (hnext : ∀ r, (next r).Secure names) : (access act next).Secure names := by
  intro r hr
  obtain ⟨r', hok, hnames⟩ := hact r hr
  refine ⟨r', [], hok, ?_, hnext r⟩
  rw [hnames]
  exact List.Subset.refl _

theorem updateStatus_of_mem {r : Registry} (f : ComponentStatus → ComponentStatus) (hf : ∀ s, (f s).name = s.name)
    (h : name ∈ r.names) : ∃ r', r.updateStatus name f = .ok r' ∧ r'.names = r.names := by
  obtain ⟨c, hc⟩ := Registry.mem_names_iff.mp h
  exact ⟨r.modify name f, Registry.updateStatus_eq hc f, Registry.names_modify f hf r name⟩

theorem secure_update {f : ComponentStatus → ComponentStatus} (hf : ∀ s, (f s).name = s.name) (hname : name ∈ names)
    (hnext : next.Secure names) : (update name f next).Secure names := by
  refine secure_access ?_ fun _ => hnext
  intro r hr
  obtain ⟨r', hr', hnames⟩ := updateStatus_of_mem f hf (hr hname)
  exact ⟨r', by rw [hr']; rfl, hnames⟩

theorem secure_refresh (hnext : next.Secure names) : (refresh next).Secure names := by
  refine secure_access (fun r _ => ⟨r, rfl, rfl⟩) ?_
  intro found r hr
  exact ⟨_, _, rfl, List.Subset.refl _, hnext⟩

theorem secure_conclude (hname : name ∈ names) : (conclude name).Secure names := by
  refine secure_refresh (secure_access ?_ fun _ => trivial)
  intro r hr
  obtain ⟨c, hc⟩ := Registry.mem_names_iff.mp (hr hname)
  exact ⟨r, by rw [Registry.status_eq hc]; rfl, rfl⟩

theorem secure_finish (hname : name ∈ names) (result : Except String Unit) : (finish name result).Secure names := by
  refine secure_access ?_ fun _ => secure_conclude hname
  intro r hr
  obtain ⟨c, hc⟩ := Registry.mem_names_iff.mp (hr hname)
  obtain ⟨f, outcome, hf, hfinish⟩ := Registry.finishRestart_eq hc result
  exact ⟨r.modify name f, by rw [hfinish]; rfl, Registry.names_modify f (fun s => (hf s).continues.name) r name⟩

theorem secure_restarting (hname : name ∈ names) (handler : Option Nat) :
    (restarting name handler).Secure names := by
  cases handler with
  | none => exact secure_finish hname (.ok ())
  | some handler => exact hname

theorem secure_treat (hname : name ∈ names) (reason : String) (isCritical : Bool) (c : Component) :
    (treat name reason isCritical c).Secure names := by
  have hconclude := secure_conclude hname
  unfold treat
  by_cases hdown : c.status.isDown = true
  · rw [if_pos hdown]
    exact hconclude
  · rw [if_neg hdown]
    cases c.status.priority with
    | low => exact secure_update (fun _ => rfl) hname hconclude
    | medium =>
      dsimp only
      by_cases hcritical : isCritical = true
      · rw [if_pos hcritical]
        exact secure_update (fun _ => rfl) hname hconclude
      · rw [if_neg hcritical]
        exact hconclude
    | high => exact secure_update (fun _ => rfl) hname (secure_restarting hname c.restart)
    | critical => exact secure_update (fun _ => rfl) hname (secure_restarting hname c.restart)

end Course

/-! ## The first access -/

section FirstAccess

variable {r : Registry} {call : RegistryCall}

/-- What the first access of a call comes to: it is refused, or the rest of the call is secure. -/
inductive Opens (r : Registry) (call : RegistryCall) : Course → Prop
  | refused {act : Registry → Except Error (Registry × List Event)} {next : Registry → Course} {e : Error}
    (hact : act r = .error e) (hrefused : ∀ e', Refused r e' call ↔ e' = e) : Opens r call (.access act next)
  | granted {act : Registry → Except Error (Registry × List Event)} {next : Registry → Course} {r' : Registry}
    (hact : act r = .ok (r', [])) (hnames : r.names ⊆ r'.names) (hnext : (next r).Secure r'.names)
    (hrefused : ∀ e, ¬Refused r e call) : Opens r call (.access act next)

theorem opens_of_course {course : Course} (h : call.course? = some course) : Opens r call course := by
  cases call with
  | register name priority restart =>
    obtain rfl := Option.some.inj h
    cases hfind : r.find? name with
    | some c =>
      have hmem : name ∈ r.names := Registry.mem_names_iff.mpr ⟨c, hfind⟩
      exact .refused (by rw [hfind]) fun e => by simp only [Refused, hmem, true_and]
    | none =>
      have hfree := Registry.not_mem_names_of_find? hfind
      have hperm := (Registry.perm_insertByName ⟨.fresh name priority, restart⟩ r.components).map (·.status.name)
      refine .granted (by rw [hfind]) ?_ (Course.secure_refresh trivial) fun e h => hfree h.1
      intro other hother
      exact hperm.mem_iff.mpr (List.mem_cons_of_mem _ hother)
  | report name error isCritical =>
    obtain rfl := Option.some.inj h
    cases hfind : r.find? name with
    | none =>
      have hfree := Registry.not_mem_names_of_find? hfind
      refine .refused (e := .componentNotFound name) ?_ fun e => ?_
      · rw [Registry.updateStatus_none hfind]
        rfl
      · simp only [Refused, hfree, not_false_eq_true, true_and]
    | some c =>
      have hmem : name ∈ r.names := Registry.mem_names_iff.mpr ⟨c, hfind⟩
      obtain ⟨r', hr', hnames⟩ := Course.updateStatus_of_mem
        (·.countFailure (r.redactor.text error)) (fun _ => rfl) hmem
      refine .granted (by rw [hr']; rfl) ?_ ?_ fun e h => h.1 hmem
      · rw [hnames]
        exact List.Subset.refl _
      · rw [hfind, hnames]
        exact Course.secure_treat hmem (r.redactor.text error) isCritical c
  | reset name =>
    obtain rfl := Option.some.inj h
    cases hfind : r.find? name with
    | none =>
      have hfree := Registry.not_mem_names_of_find? hfind
      refine .refused (e := .componentNotFound name) ?_ fun e => ?_
      · rw [Registry.updateStatus_none hfind]
        rfl
      · simp only [Refused, hfree, not_false_eq_true, true_and]
    | some c =>
      have hmem : name ∈ r.names := Registry.mem_names_iff.mpr ⟨c, hfind⟩
      obtain ⟨r', hr', hnames⟩ := Course.updateStatus_of_mem (·.reset) (fun _ => rfl) hmem
      refine .granted (by rw [hr']; rfl) ?_ (Course.secure_refresh trivial) fun e h => h.1 hmem
      rw [hnames]
      exact List.Subset.refl _
  | disablePriority priority reason =>
    obtain rfl := Option.some.inj h
    refine .granted rfl ?_ ?_ fun e => id
    · intro name hname
      obtain ⟨c, hc, rfl⟩ := List.mem_map.mp hname
      refine List.mem_map.mpr ⟨_, List.mem_map_of_mem hc, ?_⟩
      split <;> rfl
    · split
      · exact Course.secure_refresh trivial
      · trivial
  | updateResource kind usage =>
    obtain rfl := Option.some.inj h
    exact .granted rfl (List.Subset.refl _) (Course.secure_refresh trivial) fun e => id
  | setThresholds kind t =>
    obtain rfl := Option.some.inj h
    have hiff : (t.warning.isNaN || t.critical.isNaN || t.warning ≥ t.critical) = true ↔
        t.warning.isNaN = true ∨ t.critical.isNaN = true ∨ t.warning ≥ t.critical := by
      simp only [Bool.or_eq_true, decide_eq_true_eq, or_assoc]
    by_cases hbad : (t.warning.isNaN || t.critical.isNaN || t.warning ≥ t.critical) = true
    · exact .refused (if_pos hbad) fun e => by simp only [Refused, hiff.mp hbad, true_and]
    · exact .granted (if_neg hbad) (List.Subset.refl _) (Course.secure_refresh trivial) fun e h => hbad (hiff.mpr h.1)
  | setConsistent consistent =>
    obtain rfl := Option.some.inj h
    exact .granted rfl (List.Subset.refl _) (Course.secure_refresh trivial) fun e => id
  | restartEnded index result => exact absurd h nofun
  | reportDropped index => exact absurd h nofun

/-- Only what goes on after a wait is no call of its own, and it is never refused. -/
theorem not_refused_of_course?_eq_none (h : call.course? = none) (e : Error) : ¬Refused r e call := by
  cases call with
  | restartEnded index result => exact id
  | reportDropped index => exact id
  | disablePriority priority reason => exact id
  | updateResource kind usage => exact id
  | setConsistent consistent => exact id
  | register name priority restart => exact absurd h nofun
  | report name error isCritical => exact absurd h nofun
  | reset name => exact absurd h nofun
  | setThresholds kind thresholds => exact absurd h nofun

end FirstAccess

/-! ## A call on its own -/

/-- Where a call that nobody interrupts comes to rest. -/
inductive Rest where
  | ended
  | failed (e : Error)
  | waits (report : WaitingReport)

/-- The accesses of a call, one right after the other. -/
def Course.alone : Course → Registry → Registry × List Event × Rest
  | .ended, r => (r, [], .ended)
  | .restart report, r => (r, [], .waits report)
  | .access act next, r =>
    match act r with
    | .error e => (r, [], .failed e)
    | .ok (r', events) =>
      let (r'', more, rest) := (next r).alone r'
      (r'', events ++ more, rest)

namespace Course

variable {r r' : Registry} {name : String} {c : Component}

theorem alone_access {act : Registry → Except Error (Registry × List Event)} {next : Registry → Course}
    {events : List Event} (h : act r = .ok (r', events)) :
    (access act next).alone r =
      (((next r).alone r').1, events ++ ((next r).alone r').2.1, ((next r).alone r').2.2) := by
  rw [alone, h]

theorem alone_silent {act : Registry → Except Error (Registry × List Event)} {next : Registry → Course}
    (h : act r = .ok (r', [])) : (access act next).alone r = (next r).alone r' := by
  rw [alone_access h, List.nil_append]

theorem alone_refused {act : Registry → Except Error (Registry × List Event)} {next : Registry → Course} {e : Error}
    (h : act r = .error e) : (access act next).alone r = (r, [], .failed e) := by
  rw [alone, h]

/-- When nobody comes in between, the state that is written is the one that the contents call for. -/
theorem alone_refresh {next : Course} (h : next.alone r.refresh.1 = (r.refresh.1, [], .ended)) :
    (refresh next).alone r = (r.refresh.1, r.refresh.2, .ended) := by
  have hwrite : (Except.ok (r.setState r.derive) : Except Error _) = .ok (r.refresh.1, r.refresh.2) := rfl
  refine (alone_silent (Eq.refl (Except.ok (r, [])))).trans ?_
  rw [alone_access hwrite, h, List.append_nil]

theorem alone_refresh_ended (r : Registry) : (refresh .ended).alone r = (r.refresh.1, r.refresh.2, .ended) :=
  alone_refresh rfl

theorem alone_update (h : r.find? name = some c) (f : ComponentStatus → ComponentStatus) (next : Course) :
    (update name f next).alone r = next.alone (r.modify name f) := by
  refine alone_silent ?_
  rw [Registry.updateStatus_eq h]
  rfl

theorem alone_conclude (h : r.find? name = some c) :
    (conclude name).alone r = (r.refresh.1, r.refresh.2, .ended) := by
  refine alone_refresh (alone_silent ?_)
  rw [Registry.status_eq (show r.refresh.1.find? name = some c from h)]
  rfl

theorem alone_finish (h : r.find? name = some c) (result : Except String Unit) :
    ∃ r' events d, r.endReport name result = .ok (r', events, d) ∧
      (finish name result).alone r = (r', events, .ended) := by
  obtain ⟨f, outcome, hf, hfinish⟩ := Registry.finishRestart_eq h result
  have hself := (Registry.updated_modify f (fun s => (hf s).continues.name) h).self
  have hend : r.endReport name result = (r.modify name f).concludeReport name outcome := by
    unfold Registry.endReport
    rw [hfinish]
    rfl
  refine ⟨_, _, _, hend.trans (Registry.concludeReport_ok hself outcome), ?_⟩
  refine (alone_silent ?_).trans (alone_conclude hself)
  rw [hfinish]
  rfl

/-- A call that is past its first access comes to rest without having been refused. -/
theorem Secure.alone {names : List String} {course : Course} (h : course.Secure names) (hr : names ⊆ r.names)
    (e : Error) : (course.alone r).2.2 ≠ .failed e := by
  induction course generalizing r with
  | ended => exact nofun
  | restart report => exact nofun
  | access act next ih =>
    obtain ⟨r', events, hact, hnames, hnext⟩ := h r hr
    rw [alone_access hact]
    exact ih r hnext (List.Subset.trans hr hnames)

end Course

namespace SharedRegistry

open Registry

variable {s : SharedRegistry} {c : Component} {name : String}

/-- What a call leaves behind that has come to rest. -/
def settle (s : SharedRegistry) : Registry × List Event × Rest → Except Error SharedRegistry
  | (r, events, .ended) => .ok (s.changed r events)
  | (_, _, .failed e) => .error e
  | (r, events, .waits report) => .ok { s.changed r events with waiting := s.waiting ++ [report] }

theorem settle_concluded {error : String} {isCritical : Bool} {r : Registry} (outcome : DegradationOutcome)
    (hbegin : s.registry.beginReport name error isCritical = .ok (r, .settled outcome)) (h : r.find? name = some c) :
    s.call (.report name error isCritical) = s.settle ((Course.conclude name).alone r) := by
  rw [Course.alone_conclude h]
  simp only [SharedRegistry.call, hbegin, concludeReport_ok h, bind, Except.bind, settle]

theorem settle_restarting {error : String} {isCritical : Bool} {r : Registry} {handler : Option Nat}
    (hbegin : s.registry.beginReport name error isCritical = .ok (r, .restarting handler))
    (h : r.find? name = some c) :
    s.call (.report name error isCritical) = s.settle ((Course.restarting name handler).alone r) := by
  cases handler with
  | none =>
    obtain ⟨r', events, d, hend, halone⟩ := Course.alone_finish h (.ok ())
    rw [Course.restarting, halone]
    simp only [SharedRegistry.call, hbegin, hend, bind, Except.bind, settle]
  | some handler =>
    simp only [SharedRegistry.call, hbegin, bind, Except.bind, Course.restarting, Course.alone, settle, changed,
      List.append_nil]

/-- A report on a registered component does what the course does once the failure is counted. -/
theorem settle_report (h : s.registry.find? name = some c) (error : String) (isCritical : Bool) :
    s.call (.report name error isCritical) =
      s.settle ((Course.treat name (s.registry.redactor.text error) isCritical c).alone
        (s.registry.modify name (·.countFailure (s.registry.redactor.text error)))) := by
  have hcounted := (updated_modify (·.countFailure (s.registry.redactor.text error)) (fun _ => rfl) h).self
  unfold Course.treat
  by_cases hdown : c.status.isDown = true
  · rw [if_pos hdown]
    refine settle_concluded .recorded ?_ hcounted
    simp only [beginReport, h, if_pos hdown]
  · rw [if_neg hdown]
    cases hpriority : c.status.priority with
    | low =>
      have hupdated := (updated_modify (·.disable (s.registry.redactor.text error)) (fun _ => rfl) hcounted).self
      refine (settle_concluded .disabled ?_ hupdated).trans (by rw [← Course.alone_update hcounted])
      simp only [beginReport, h, if_neg hdown, hpriority, updateStatus_eq hcounted, bind, Except.bind]
    | medium =>
      dsimp only
      by_cases hcritical : isCritical = true
      · have hupdated := (updated_modify (·.degrade (s.registry.redactor.text error)) (fun _ => rfl) hcounted).self
        rw [if_pos hcritical]
        refine (settle_concluded .degraded ?_ hupdated).trans (by rw [← Course.alone_update hcounted])
        simp only [beginReport, h, if_neg hdown, hpriority, if_pos hcritical, updateStatus_eq hcounted, bind,
          Except.bind]
      · rw [if_neg hcritical]
        refine settle_concluded .recorded ?_ hcounted
        simp only [beginReport, h, if_neg hdown, hpriority, if_neg hcritical]
    | high =>
      have hupdated := (updated_modify (fun s => { s with healthy := false }) (fun _ => rfl) hcounted).self
      refine (settle_restarting ?_ hupdated).trans (by rw [← Course.alone_update hcounted])
      simp only [beginReport, h, if_neg hdown, hpriority, updateStatus_eq hcounted, bind, Except.bind]
    | critical =>
      have hupdated := (updated_modify (fun s => { s with healthy := false }) (fun _ => rfl) hcounted).self
      refine (settle_restarting ?_ hupdated).trans (by rw [← Course.alone_update hcounted])
      simp only [beginReport, h, if_neg hdown, hpriority, updateStatus_eq hcounted, bind, Except.bind]

/-- A call that nobody interrupts does what it does in one go. -/
theorem call_eq_alone {call : RegistryCall} {course : Course} (h : call.course? = some course) :
    s.call call = s.settle (course.alone s.registry) := by
  cases call with
  | register name priority restart =>
    obtain rfl := Option.some.inj h
    cases hfind : s.registry.find? name with
    | some c =>
      rw [Course.alone_refused (e := .duplicateComponent name) (by rw [hfind])]
      simp only [SharedRegistry.call, register_taken hfind, bind, Except.bind, settle]
    | none =>
      rw [Course.alone_silent (by rw [hfind]), Course.alone_refresh_ended]
      simp only [SharedRegistry.call, register, hfind, bind, Except.bind, settle]
  | report name error isCritical =>
    obtain rfl := Option.some.inj h
    cases hfind : s.registry.find? name with
    | none =>
      rw [Course.alone_refused (e := .componentNotFound name) (by rw [updateStatus_none hfind]; rfl)]
      simp only [SharedRegistry.call, beginReport_none hfind, bind, Except.bind, settle]
    | some c =>
      rw [settle_report hfind, Course.alone_silent (by rw [updateStatus_eq hfind]; rfl), hfind]
  | reset name =>
    obtain rfl := Option.some.inj h
    cases hfind : s.registry.find? name with
    | none =>
      rw [Course.update, Course.alone_refused (e := .componentNotFound name) (by rw [updateStatus_none hfind]; rfl)]
      simp only [SharedRegistry.call, reset_none hfind, bind, Except.bind, settle]
    | some c =>
      rw [Course.alone_update hfind, Course.alone_refresh_ended]
      simp only [SharedRegistry.call, reset_eq hfind, bind, Except.bind, settle]
  | disablePriority priority reason =>
    obtain rfl := Option.some.inj h
    rw [Course.alone_silent rfl]
    have hempty : ((s.registry.components.filter (isActiveOf priority)).map (·.status.name)).isEmpty =
        !s.registry.components.any (isActiveOf priority) := by
      rw [Bool.eq_iff_iff, List.isEmpty_map, List.isEmpty_iff, List.filter_eq_nil_iff, Bool.not_eq_true',
        List.any_eq_false]
    simp only [SharedRegistry.call, Registry.disablePriority, hempty]
    cases s.registry.components.any (isActiveOf priority) with
    | false => rfl
    | true =>
      rw [if_pos rfl, Course.alone_refresh_ended]
      rfl
  | updateResource kind usage =>
    obtain rfl := Option.some.inj h
    rw [Course.alone_silent rfl, Course.alone_refresh_ended]
    rfl
  | setThresholds kind t =>
    obtain rfl := Option.some.inj h
    by_cases hbad : (t.warning.isNaN || t.critical.isNaN || t.warning ≥ t.critical) = true
    · rw [Course.alone_refused (if_pos hbad)]
      simp only [SharedRegistry.call, setThresholds, if_pos hbad, bind, Except.bind, settle]
    · rw [Course.alone_silent (if_neg hbad), Course.alone_refresh_ended]
      simp only [SharedRegistry.call, setThresholds, if_neg hbad, bind, Except.bind, settle]
  | setConsistent consistent =>
    obtain rfl := Option.some.inj h
    rw [Course.alone_silent rfl, Course.alone_refresh_ended]
    rfl
  | restartEnded index result => simp only [RegistryCall.course?, reduceCtorEq] at h
  | reportDropped index => simp only [RegistryCall.course?, reduceCtorEq] at h

/-- So does a report whose restart has ended. -/
theorem call_restartEnded_eq_alone {index : Nat} {report : WaitingReport} (h : s.waiting[index]? = some report)
    (result : Except String Unit) : s.call (.restartEnded index result) =
      { s with waiting := s.waiting.eraseIdx index }.settle
        ((Course.finish report.component result).alone s.registry) := by
  cases hfind : s.registry.find? report.component with
  | some c =>
    obtain ⟨r, events, d, hend, halone⟩ := Course.alone_finish hfind result
    rw [halone]
    simp only [SharedRegistry.call, h, hend, bind, Except.bind, settle, changed]
  | none =>
    have hfinish : s.registry.finishRestart report.component result = .error (.componentNotFound report.component) := by
      cases result <;> simp only [finishRestart, updateStatus_none hfind, bind, Except.bind]
    rw [Course.finish, Course.alone_refused (e := .componentNotFound report.component) (by rw [hfinish]; rfl)]
    simp only [SharedRegistry.call, h, endReport_none hfind, bind, Except.bind, settle]

theorem settle_ne_error (x : Registry × List Event × Rest) (h : ∀ e, x.2.2 ≠ .failed e) (e : Error) :
    s.settle x ≠ .error e := by
  obtain ⟨r, events, rest⟩ := x
  cases rest with
  | ended => exact nofun
  | waits report => exact nofun
  | failed e' => exact absurd rfl (h e')

/-- A call in one go is refused for the reasons that its first access is refused for. -/
theorem call_error_iff (hwaiting : ∀ report ∈ s.waiting, report.component ∈ s.registry.names) (call : RegistryCall)
    (e : Error) : s.call call = .error e ↔ Refused s.registry e call := by
  cases hcourse : call.course? with
  | some course =>
    rw [call_eq_alone hcourse]
    cases opens_of_course (r := s.registry) hcourse with
    | refused hact hrefused =>
      rw [Course.alone_refused hact, hrefused e]
      simp only [settle, Except.error.injEq, eq_comm]
    | granted hact hnames hnext hrefused =>
      rw [Course.alone_silent hact]
      refine iff_of_false (settle_ne_error _ ?_ e) (hrefused e)
      exact hnext.alone (List.Subset.refl _)
  | none =>
    refine iff_of_false ?_ (not_refused_of_course?_eq_none hcourse e)
    cases call with
    | restartEnded index result =>
      cases hreport : s.waiting[index]? with
      | none => simp only [SharedRegistry.call, hreport, reduceCtorEq, not_false_eq_true]
      | some report =>
        have hname := hwaiting report (List.mem_of_getElem? hreport)
        rw [call_restartEnded_eq_alone hreport]
        exact settle_ne_error _ ((Course.secure_finish hname result).alone (List.Subset.refl _)) e
    | reportDropped index =>
      intro h
      simp only [SharedRegistry.call, reduceCtorEq] at h
    | _ => simp only [RegistryCall.course?, reduceCtorEq] at hcourse

/-- Reports wait for restarts of components that are registered. -/
theorem mem_names_of_mem_waiting (resources : ResourceSettings) (redactor : Redactor) (calls : List RegistryCall) :
    ∀ report ∈ ((new resources redactor).play calls).waiting,
      report.component ∈ ((new resources redactor).play calls).registry.names := by
  intro report hreport
  obtain ⟨c, hfind, -⟩ := exists_of_mem_waiting resources redactor calls report hreport
  exact mem_names_iff.mpr ⟨c, hfind⟩

end SharedRegistry

/-! ## Calls under way among others -/

namespace BusyRegistry

variable {b : BusyRegistry}

/-- Every call under way is past the point where it could be refused. -/
def Sound (b : BusyRegistry) : Prop := ∀ course ∈ b.underWay, course.Secure b.registry.names

theorem secure_of_mem_pending {course rest : Course} {names : List String} (h : rest ∈ pending course)
    (hcourse : course.Secure names) : rest.Secure names := by
  cases course with
  | ended => exact absurd h List.not_mem_nil
  | access act next =>
    obtain rfl := List.mem_singleton.mp h
    exact hcourse
  | restart report =>
    obtain rfl := List.mem_singleton.mp h
    exact hcourse

/-- An access that is granted leaves the other calls secure, and is followed by one that is. -/
theorem perform_granted {front back : List Course} {act : Registry → Except Error (Registry × List Event)}
    {next : Registry → Course} {r : Registry} {events : List Event} (hact : act b.registry = .ok (r, events))
    (hnames : b.registry.names ⊆ r.names) (hnext : (next b.registry).Secure r.names)
    (hothers : ∀ course ∈ front ++ back, course.Secure b.registry.names) :
    (b.perform front back (.access act next)).2 = none ∧ (b.perform front back (.access act next)).1.Sound := by
  simp only [perform, hact, true_and]
  intro course hcourse
  rcases List.mem_append.mp hcourse with hcourse | hback
  · rcases List.mem_append.mp hcourse with hfront | hrest
    · exact (hothers course (List.mem_append_left _ hfront)).mono hnames
    · exact secure_of_mem_pending hrest hnext
  · exact (hothers course (List.mem_append_right _ hback)).mono hnames

/-- What a move comes to: a call is refused, and then nothing has happened, or it goes well. -/
inductive Moved (b : BusyRegistry) (m : Move) : Prop
  | refused {call : RegistryCall} {e : Error} (hbegin : m = .begin call)
    (hrefused : ∀ e', Refused b.registry e' call ↔ e' = e) (hmove : b.move m = (b, some e))
  | granted (hfree : ∀ call, m = .begin call → ∀ e, ¬Refused b.registry e call) (hmove : (b.move m).2 = none)
    (hsound : (b.move m).1.Sound)

theorem moved (h : b.Sound) (m : Move) : b.Moved m := by
  cases m with
  | begin call =>
    cases hcourse : call.course? with
    | none =>
      have hmove : b.move (.begin call) = (b, none) := by simp only [move, hcourse]
      refine .granted ?_ (by rw [hmove]) (by rw [hmove]; exact h)
      rintro _ ⟨⟩
      exact not_refused_of_course?_eq_none hcourse
    | some course =>
      have hmove : b.move (.begin call) = b.perform b.underWay [] course := by simp only [move, hcourse]
      cases opens_of_course (r := b.registry) hcourse with
      | refused hact hrefused =>
        refine .refused rfl hrefused ?_
        rw [hmove]
        simp only [perform, hact, List.append_nil]
      | granted hact hnames hnext hrefused =>
        have hothers : ∀ course ∈ b.underWay ++ [], course.Secure b.registry.names := by
          rw [List.append_nil]
          exact h
        obtain ⟨hnone, hsound⟩ := perform_granted hact hnames hnext hothers
        refine .granted ?_ (by rw [hmove]; exact hnone) (by rw [hmove]; exact hsound)
        rintro _ ⟨⟩
        exact hrefused
  | goOn index =>
    cases hcourse : b.underWay[index]? with
    | none =>
      have hmove : b.move (.goOn index) = (b, none) := by simp only [move, hcourse]
      exact .granted nofun (by rw [hmove]) (by rw [hmove]; exact h)
    | some course =>
      have hmove : b.move (.goOn index) =
          b.perform (b.underWay.take index) (b.underWay.drop (index + 1)) course := by simp only [move, hcourse]
      have hsecure := h course (List.mem_of_getElem? hcourse)
      cases course with
      | ended => exact .granted nofun (by rw [hmove]; rfl) (by rw [hmove]; exact h)
      | restart report => exact .granted nofun (by rw [hmove]; rfl) (by rw [hmove]; exact h)
      | access act next =>
        obtain ⟨r, events, hact, hnames, hnext⟩ := hsecure b.registry (List.Subset.refl _)
        have hothers : ∀ course ∈ b.underWay.take index ++ b.underWay.drop (index + 1),
            course.Secure b.registry.names := by
          intro other hother
          rcases List.mem_append.mp hother with hother | hother
          · exact h other (List.mem_of_mem_take hother)
          · exact h other (List.mem_of_mem_drop hother)
        obtain ⟨hnone, hsound⟩ := perform_granted hact hnames (hnext.mono hnames) hothers
        exact .granted nofun (by rw [hmove]; exact hnone) (by rw [hmove]; exact hsound)
  | handlerEnded index result =>
    have hmove : (b.move (.handlerEnded index result)).2 = none := by
      unfold move
      dsimp only
      split <;> rfl
    refine .granted nofun hmove ?_
    unfold move
    dsimp only
    split
    · next report hcourse =>
      have hreport : report.component ∈ b.registry.names := h _ (List.mem_of_getElem? hcourse)
      intro course hset
      rcases List.mem_or_eq_of_mem_set hset with hmem | rfl
      · exact h course hmem
      · exact Course.secure_finish hreport result
    · exact h
  | dropped index =>
    refine .granted nofun rfl ?_
    intro course hcourse
    exact h course (List.mem_of_mem_eraseIdx hcourse)

theorem sound_play (h : b.Sound) (moves : List Move) : (b.play moves).Sound := by
  induction moves generalizing b with
  | nil => exact h
  | cons m moves ih =>
    refine ih ?_
    show (b.move m).1.Sound
    cases moved h m with
    | refused hbegin hrefused hmove =>
      rw [hmove]
      exact h
    | granted hfree hmove hsound => exact hsound

/-- **What a registry refuses, and that it changes nothing.** A registration is refused exactly if the name is in use, a
report and a reset exactly if it is not, new thresholds exactly if one is no number or the warning does not come before
the critical level, and nothing else is refused. This is so after every run in which calls begin, make their accesses,
wait for restarts and are dropped in any order: what is refused is the very first access of a call, never a later one,
and it leaves components, resources, consistency flag, system state, the calls under way, the handlers called and the
events as they were. And it is so for calls that are made in one go. -/
theorem refused_iff (resources : ResourceSettings) (redactor : Redactor) :
    (∀ (moves : List Move) (m : Move) (e : Error), let b := (new resources redactor).play moves
      ((b.move m).2 = some e ↔ ∃ call, m = .begin call ∧ Refused b.registry e call) ∧
        ((b.move m).2 = some e → (b.move m).1 = b)) ∧
    ∀ (calls : List RegistryCall) (call : RegistryCall) (e : Error),
      let s := (SharedRegistry.new resources redactor).play calls
      (s.call call = .error e ↔ Refused s.registry e call) ∧ (s.call call = .error e → s.step call = s) := by
  constructor
  · intro moves m e b
    have hsound : b.Sound := sound_play (fun course h => absurd h List.not_mem_nil) moves
    cases moved hsound m with
    | refused hbegin hrefused hmove =>
      rw [hmove, Option.some.injEq]
      refine ⟨⟨?_, ?_⟩, fun _ => rfl⟩
      · intro he
        exact ⟨_, hbegin, (hrefused e).mpr he.symm⟩
      · rintro ⟨call, hcall, h⟩
        obtain rfl := Move.begin.inj (hbegin.symm.trans hcall)
        exact ((hrefused e).mp h).symm
    | granted hfree hmove hsound =>
      rw [hmove]
      refine ⟨iff_of_false nofun ?_, nofun⟩
      rintro ⟨call, hcall, h⟩
      exact hfree call hcall e h
  · intro calls call e s
    have hwaiting := SharedRegistry.mem_names_of_mem_waiting resources redactor calls
    refine ⟨SharedRegistry.call_error_iff hwaiting call e, ?_⟩
    intro h
    simp only [SharedRegistry.step, h]

/-- A component is down and its restart handler runs; under its name no other can be registered in between, and the
report goes on to its end all the same. -/
example :
    let b := (new Settings.default.resources ⟨false⟩).play
      [.begin (.register "feed" .high (some 7)), .begin (.report "feed" "lost" true), .goOn 1]
    b.called = [⟨"feed", 7⟩] ∧
      (b.move (.begin (.register "feed" .low none))).2 = some (.duplicateComponent "feed") ∧
      (b.play [.handlerEnded 1 (.ok ()), .goOn 1, .goOn 1, .goOn 1, .goOn 1]).underWay.length = 1 := by decide

end BusyRegistry

end Failsafe
