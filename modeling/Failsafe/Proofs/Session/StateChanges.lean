import Failsafe.Proofs.Health.Snapshot
import Failsafe.Proofs.Session.Moves
import Failsafe.Proofs.Session.Opening
import Mathlib.Data.List.Induction

/-!
# The changes of the system state

The system state is kept beside the components and resources it is derived from, and its changes are logged. Whatever a
session goes through, the changes logged on the way lead from the state it had to the state it has (`Stages.leads`).
And the state is up to date after every move (`Move.upToDate`); only between the two halves of a report it may not be.

So it is up to date after each command whose reports, if it makes any, come to their end: nothing drops them on the
way (`Command.cutsReport`), and no hook that is called in the foreground panics.
-/

namespace Failsafe

namespace Executor

/-! What the executor logs are no changes of the system state. -/

theorem change?_observe (e : Executor) (incident : Incident) :
    (e.observe incident).2.1.filterMap Event.change? = [] := by
  have hlogged : (Event.ofIncident incident e.redactor).change? = none := rfl
  have hhalt :
      (Executor.halt { e with history := e.history.record incident } incident).2.filterMap Event.change? = [] := by
    unfold halt
    dsimp only
    split <;> rfl
  unfold observe
  dsimp only
  split
  · rw [List.filterMap_cons_none hlogged, hhalt]
  · rw [List.filterMap_cons_none hlogged, List.filterMap_nil]

theorem change?_giveUp (e : Executor) (now : Nat) (incident : Incident) (action : Action) :
    (e.giveUp now incident action).2.filterMap Event.change? = [] := by
  unfold giveUp
  dsimp only
  split <;> rfl

theorem change?_resume (e : Executor) : e.resume.2.filterMap Event.change? = [] := by
  unfold resume
  dsimp only
  split <;> rfl

end Executor

namespace Session

variable {s s' : Session}

/-! ## The changes that are logged -/

/-- From `s` to `s'` events were logged whose changes lead from the system state of the one to that of the other. -/
def Traces (s s' : Session) : Prop :=
  ∃ events : List Event, s'.log = events.reverse ++ s.log ∧
    SystemState.Leads s.registry.state (events.filterMap Event.change?) s'.registry.state

/-- Events that change nothing about the system state. -/
theorem Traces.of_no_change (events : List Event) (hlog : s'.log = events.reverse ++ s.log)
    (hevents : events.filterMap Event.change? = []) (hstate : s'.registry.state = s.registry.state) : s.Traces s' := by
  refine ⟨events, hlog, ?_⟩
  rw [hevents, hstate]
  exact .nil _

theorem Stage.traces (h : s.Stage s') : s.Traces s' := by
  cases h with
  | begun h => exact .of_no_change [] rfl rfl h.state
  | move h =>
    cases h with
    | beside h => exact .of_no_change [] h.log rfl (by rw [h.registry])
    | breaker breaker => exact .of_no_change [] rfl rfl rfl
    | resumed => exact .of_no_change _ rfl s.executor.change?_resume rfl
    | observed incident => exact .of_no_change _ rfl (s.executor.change?_observe incident) rfl
    | gaveUp incident action => exact .of_no_change _ rfl (s.executor.change?_giveUp _ incident action) rfl
    | tended h => exact ⟨_, rfl, h.leads⟩

/-- The changes that a session logs lead from the system state it had to the one it has. -/
theorem Stages.traces (h : s.Stages s') : s.Traces s' := by
  induction h with
  | refl => exact ⟨[], rfl, .nil _⟩
  | tail _ hstage ih =>
    obtain ⟨events, hlog, hleads⟩ := ih
    obtain ⟨events', hlog', hleads'⟩ := hstage.traces
    refine ⟨events ++ events', ?_, ?_⟩
    · rw [hlog', hlog, List.reverse_append, List.append_assoc]
    · rw [List.filterMap_append]
      exact hleads.append hleads'

/-! ## Up to date -/

theorem Move.upToDate (h : s.Move s') (hs : s.registry.UpToDate) : s'.registry.UpToDate := by
  cases h with
  | beside h => rw [h.registry]; exact hs
  | tended h => exact h.upToDate hs
  | _ => exact hs

theorem Moves.upToDate (h : s.Moves s') (hs : s.registry.UpToDate) : s'.registry.UpToDate := by
  induction h with
  | refl => exact hs
  | tail _ hmove ih => exact hmove.upToDate ih

/-- A report that nothing drops ends with the state up to date, or with a panic. -/
theorem report_upToDate (hs : s.registry.UpToDate) {name error : String} {isCritical : Bool}
    (hpanicked : (s.report none name error isCritical).1.panicked = false) :
    (s.report none name error isCritical).1.registry.UpToDate := by
  have hends := s.report_ends none name error isCritical
  generalize s.report none name error isCritical = ended at hends hpanicked ⊢
  cases hends with
  | refused e => exact hs
  | concluded hhalf hconcluded => exact hconcluded.upToDate
  | dropped hhalf hwhy => exact absurd hpanicked (by simp [hwhy rfl])

theorem runFor_upToDate (hs : s.registry.UpToDate) {component : String} {request : RunRequest}
    (hpanicked : (s.runFor none component request).1.panicked = false) :
    (s.runFor none component request).1.registry.UpToDate := by
  have hrun := (s.run_moves none request).upToDate hs
  rcases s.runFor_cases none component request with hended | ⟨error, isCritical, hreport⟩
  · rw [hended]
    exact hrun
  · rw [hreport] at hpanicked ⊢
    exact report_upToDate hrun hpanicked

/-! ## Commands -/

end Session

/-- Whether a deadline may cut off a report of the command. -/
def Command.cutsReport : Command → Bool
  | .runFor _ request => request.timeout.isSome
  | _ => false

namespace Session

variable {s : Session} {command : Command}

theorem perform_upToDate (hs : s.registry.UpToDate) (hcuts : command.cutsReport = false)
    (hpanicked : (s.perform command).1.panicked = false) : (s.perform command).1.registry.UpToDate := by
  cases hreports : command.reports with
  | false => exact (s.perform_moves hreports).upToDate hs
  | true =>
    cases command with
    | report name error isCritical =>
      rw [s.perform_report] at hpanicked ⊢
      exact report_upToDate hs hpanicked
    | runFor component request =>
      have hdeadline : request.deadline s.now = none := by
        unfold RunRequest.deadline
        cases htimeout : request.timeout with
        | none => rfl
        | some timeout => exact absurd hcuts (by simp [Command.cutsReport, htimeout])
      have hended : (s.perform (.runFor component request)).1 = (s.runFor none component request).1 := by
        rw [← hdeadline]
        rfl
      rw [hended] at hpanicked ⊢
      exact runFor_upToDate hs hpanicked
    | _ => exact absurd hreports (by simp [Command.reports])

/-- The result of a report has the system state that is kept. -/
theorem systemState_of_degradation {d : Degradation ComponentStatus} (h : (s.perform command).2 = .degradation d) :
    d.systemState = (s.perform command).1.registry.state := by
  cases command with
  | report name error isCritical =>
    rw [s.perform_report]
    unfold perform at h
    dsimp only at h
    have hends := s.report_ends none name error isCritical
    generalize s.report none name error isCritical = ended at hends h ⊢
    cases hends with
    | refused e => cases h
    | concluded hhalf hconcluded =>
      obtain rfl := Reply.degradation.inj h
      exact hconcluded.systemState
    | dropped hhalf hwhy => cases h
  | _ =>
    -- No other command has such a result.
    first
      | cases h
      | unfold perform at h
        dsimp only at h
        split at h <;> cases h

/-! ## Chronicles -/

theorem played_panicked (h : (s.played command).panicked = false) :
    (s.perform command).1.panicked = false ∧ s.panicked = false := by
  have hsettled : (s.perform command).1.Stages (s.played command) := (settle_moves _ _).stages
  have hplayed := s.played_stages command
  constructor
  · rw [← Bool.not_eq_true]
    exact fun hpanicked => absurd (hsettled.panicked hpanicked) (by simp [h])
  · rw [← Bool.not_eq_true]
    exact fun hpanicked => absurd (hplayed.panicked hpanicked) (by simp [h])

theorem chronicle_upToDate (hs : s.registry.UpToDate) {commands : List Command}
    (hcuts : ∀ command ∈ commands, command.cutsReport = false)
    (hpanicked : (s.chronicle commands).session.panicked = false) :
    (s.chronicle commands).session.registry.UpToDate := by
  induction commands using List.reverseRecOn with
  | nil => exact hs
  | append_singleton commands command ih =>
    rw [chronicle_concat] at hpanicked ⊢
    have hplayed : ((s.chronicle commands).session.played command).panicked = false := hpanicked
    obtain ⟨hperformed, hbefore⟩ := played_panicked hplayed
    have hupToDate := ih (fun other hother => hcuts other (List.mem_append_left _ hother)) hbefore
    have hcommand := hcuts command (List.mem_append_right _ (List.mem_singleton_self _))
    exact (settle_moves _ _).upToDate (perform_upToDate hupToDate hcommand hperformed)

/-- The changes in a chronicle lead from the system state at first to the one at last. -/
theorem chronicle_leads (hlog : s.log = []) (commands : List Command) :
    (s.chronicle commands).session.log = [] ∧
      SystemState.Leads s.registry.state ((s.chronicle commands).events.filterMap Event.change?)
        (s.chronicle commands).session.registry.state := by
  induction commands using List.reverseRecOn with
  | nil => exact ⟨hlog, .nil _⟩
  | append_singleton commands command ih =>
    rw [chronicle_concat]
    generalize s.chronicle commands = c at ih
    obtain ⟨htaken, hleads⟩ := ih
    obtain ⟨events, hadded, hled⟩ := (c.session.played_stages command).traces
    refine ⟨rfl, ?_⟩
    show SystemState.Leads _ ((c.events ++ (c.session.played command).log.reverse).filterMap Event.change?)
      (c.session.played command).registry.state
    rw [hadded, htaken, List.append_nil, List.reverse_reverse, List.filterMap_append]
    exact hleads.append hled

/-- **The changes of the system state.** In a session whose thresholds are valid, let any commands be carried out such
that every report comes to its end: no deadline cuts it off and no hook panics in the foreground. Then, and so after
each of the commands, the system state is the one that components, resources and consistency flag call for. The changes
that have been logged begin with the normal state; each begins where the one before it ended, none ends where it began,
and the last ends in the present state. And the result of a report that is asked for next has the state that is kept. -/
theorem chronicle_stateChanges {settings : Settings} {clock : Clock} (hnew : new? settings clock = some s)
    (hvalid : settings.resources.validate = .ok ()) (commands : List Command)
    (hcuts : ∀ command ∈ commands, command.cutsReport = false)
    (hpanicked : (s.chronicle commands).session.panicked = false) :
    let c := s.chronicle commands
    c.session.registry.state = c.session.registry.derive ∧
      SystemState.Leads .normal (c.events.filterMap Event.change?) c.session.registry.state ∧
      ∀ command d, (c.session.perform command).2 = .degradation d →
        d.systemState = (c.session.perform command).1.registry.state := by
  have hfresh := new?_fresh hnew
  have hupToDate : s.registry.UpToDate := by
    rw [hfresh.registry]
    exact Registry.state_new hvalid _
  have hstate : s.registry.state = .normal := by
    rw [hfresh.registry]
    rfl
  obtain ⟨-, hleads⟩ := chronicle_leads hfresh.log commands
  rw [hstate] at hleads
  exact ⟨chronicle_upToDate hupToDate hcuts hpanicked, hleads, fun _ _ => systemState_of_degradation⟩

/-- A critical component that cannot be restarted, a reset of it, and a finding that the outside state is not
consistent. -/
def lapses : List Command :=
  [.register "executor" .critical (some [⟨5, .failed "refused"⟩]), .report "executor" "lost" true, .reset "executor",
    .setConsistent false]

/-- The system state becomes critical with the report, normal with the reset, and degraded with the finding. -/
theorem chronicle_stateChanges_lapses :
    ∃ s, new? .default = some s ∧ Settings.default.resources.validate = .ok () ∧
      (∀ command ∈ lapses, command.cutsReport = false) ∧
      let c := s.chronicle lapses
      c.session.panicked = false ∧
        c.events.filterMap Event.change? = [(.normal, .critical), (.critical, .normal), (.normal, .degraded)] ∧
        SystemState.Leads .normal (c.events.filterMap Event.change?) c.session.registry.state ∧
        c.session.registry.state = .degraded ∧ c.session.registry.derive = .degraded := by
  have hvalues : (new? .default).map (fun s =>
      let c := s.chronicle lapses
      (c.session.panicked, c.events.filterMap Event.change?, c.session.registry.state)) =
        some (false, [(.normal, .critical), (.critical, .normal), (.normal, .degraded)], .degraded) := by decide +kernel
  obtain ⟨s, hnew, hvalues⟩ := Option.map_eq_some_iff.mp hvalues
  simp only [Prod.mk.injEq] at hvalues
  obtain ⟨hpanicked, hchanges, hstate⟩ := hvalues
  obtain ⟨hderived, hleads, -⟩ := chronicle_stateChanges hnew rfl lapses (by decide) hpanicked
  exact ⟨s, hnew, rfl, by decide, hpanicked, hchanges, hleads, hstate, hderived.symm.trans hstate⟩

end Session

end Failsafe
