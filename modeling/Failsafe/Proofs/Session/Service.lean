import Failsafe.Proofs.Session.Dropped
import Failsafe.Proofs.Session.Ledger
import Failsafe.Proofs.Session.Unattended
import Mathlib.Data.List.Induction

/-!
# Runs for components

A run for a component is a run, and a report to the registry if it failed. Whatever becomes of the report, the run hands
back what it has handed back (`runFor_eq_run`). As long as commands leave registry and governor to such runs
(`Command.spares`), the status of a component is made of the failures of its runs since it was registered:
`Billed` says how, `Billed.other` and `Billed.failed` what one more run adds, and `accounts_after` carries it through all
commands.
-/

namespace Failsafe

/-- Whether a command leaves registry and governor to runs for components and to registrations. -/
def Command.spares : Command → Bool
  | .report _ _ _ | .reset _ | .disablePriority _ _ | .updateResource _ _ | .setThresholds _ _ | .setConsistent _
  | .handle _ _ | .poll _ | .startMonitor _ | .startValidator _ => false
  | _ => true

namespace Session

/-- Whether a run failed, with the decision to stop trading or to escalate. -/
def RunOutcome.isCritical : RunOutcome → Bool
  | .stopped (.failed _ _ _ action) => action.stopTrading || action.escalate
  | _ => false

theorem RunOutcome.isFailed_of_isCritical {outcome : RunOutcome} (h : outcome.isCritical = true) :
    outcome.isFailed = true := by
  unfold RunOutcome.isCritical at h
  split at h
  · rfl
  · exact absurd h (by simp)

/-! ## One run -/

section

variable {s s' : Session} {deadline : Option Nat} {component : String} {request : RunRequest}

/-- After a run that failed comes a report, as a critical one if it is. What the run has handed back is handed back unless
the report is dropped. -/
theorem runFor_of_failed (component : String) (h : (s.run deadline request).2.2.isFailed = true) :
    ∃ error ended, (s.run deadline request).1.report deadline component error (s.run deadline request).2.2.isCritical =
        ((s.runFor deadline component request).1, ended) ∧
      (ended = .cancelled → (s.runFor deadline component request).2.2 = .cancelled) ∧
      (ended ≠ .cancelled → (s.runFor deadline component request).2 = (s.run deadline request).2) := by
  unfold runFor
  generalize s.run deadline request = ran at h ⊢
  obtain ⟨s', calls, outcome⟩ := ran
  cases outcome with
  | value result => exact absurd h (by simp [RunOutcome.isFailed])
  | cancelled => exact absurd h (by simp [RunOutcome.isFailed])
  | stopped error =>
    cases error with
    | circuitOpen operation => exact absurd h (by simp [RunOutcome.isFailed])
    | failed operation failure attempts action =>
      dsimp only [RunOutcome.isCritical]
      refine ⟨failure.message, ?_⟩
      rcases s'.report deadline component failure.message (action.stopTrading || action.escalate) with ⟨reported, _ | _⟩
      · exact ⟨_, rfl, fun h => absurd h (by simp), fun _ => rfl⟩
      · exact ⟨_, rfl, fun _ => rfl, fun h => absurd rfl h⟩

theorem runFor_of_not_failed (component : String) (h : (s.run deadline request).2.2.isFailed = false) :
    s.runFor deadline component request = s.run deadline request := by
  unfold runFor
  split
  · next hrun =>
    rw [hrun] at h
    exact absurd h (by simp [RunOutcome.isFailed])
  · rfl

/-- A run for a component that is not dropped hands back what the run has handed back. -/
theorem runFor_eq_run (h : (s.runFor deadline component request).2.2 ≠ .cancelled) :
    (s.runFor deadline component request).2 = (s.run deadline request).2 := by
  cases hfailed : (s.run deadline request).2.2.isFailed with
  | false => rw [runFor_of_not_failed component hfailed]
  | true =>
    obtain ⟨error, ended, -, hdropped, hended⟩ := runFor_of_failed component hfailed
    exact hended fun hcancelled => h (hdropped hcancelled)

/-- Without a deadline a run for a component is dropped only by a restart handler that panics. -/
theorem runFor_completes (h : (s.runFor none component request).2.2 = .cancelled) :
    (s.runFor none component request).1.panicked = true := by
  cases hfailed : (s.run none request).2.2.isFailed with
  | false =>
    rw [runFor_of_not_failed component hfailed] at h
    exact absurd h (s.run_completes request)
  | true =>
    obtain ⟨error, ended, hreport, -, hended⟩ := runFor_of_failed component hfailed
    have hcancelled : ended = .cancelled := by
      by_contra hfinished
      rw [hended hfinished] at h
      exact s.run_completes request h
    have hends := (s.run none request).1.report_ends none component error (s.run none request).2.2.isCritical
    rw [hreport, hcancelled] at hends
    generalize (s.runFor none component request).1 = s' at hends ⊢
    cases hends with
    | dropped hhalf hwhy => exact hwhy rfl

/-! ## What a run does to the registry -/

/-- A run that did not fail leaves the registry alone, and so does one for a name that is not in use. -/
theorem runFor_unattended (h : (s.run deadline request).2.2.isFailed = false ∨ s.registry.find? component = none)
    (htasks : s.tasks = []) :
    (s.runFor deadline component request).1.tasks = [] ∧
      (s.runFor deadline component request).1.registry = s.registry := by
  have hrun := s.run_unattended deadline request
  cases hfailed : (s.run deadline request).2.2.isFailed with
  | false =>
    rw [runFor_of_not_failed component hfailed]
    exact ⟨hrun.tasks htasks, hrun.registry htasks⟩
  | true =>
    have hfind : (s.run deadline request).1.registry.find? component = none := by
      rw [hrun.registry htasks]
      exact h.resolve_left (by simp [hfailed])
    obtain ⟨error, ended, hreport, -⟩ := runFor_of_failed component hfailed
    rw [report_none hfind] at hreport
    rw [← (Prod.mk.inj hreport).1]
    exact ⟨hrun.tasks htasks, hrun.registry htasks⟩

/-- The failure of a run is reported on its component, and on no other. -/
theorem runFor_updated {c : Component} (hfailed : (s.run deadline request).2.2.isFailed = true)
    (hends : (s.runFor deadline component request).2.2 ≠ .cancelled) (hfind : s.registry.find? component = some c)
    (htasks : s.tasks = []) :
    (s.runFor deadline component request).1.tasks = [] ∧
      ∃ error result, Registry.Updated s.registry component c
        (c.afterFailure s.registry.redactor error (s.run deadline request).2.2.isCritical result)
        (s.runFor deadline component request).1.registry := by
  have hrun := s.run_unattended deadline request
  have hloops := hrun.tasks htasks
  obtain ⟨error, ended, hreport, hdropped, -⟩ := runFor_of_failed component hfailed
  rw [← hrun.registry htasks] at hfind ⊢
  obtain ⟨f, hf, hstatus, hthrough⟩ := Registry.reportThrough_eq hfind error
    (s.run deadline request).2.2.isCritical (s.run deadline request).1.restartEnds
  have hreported := report_reportThrough hloops hthrough (by
    rw [hreport]
    exact fun hcancelled => hends (hdropped hcancelled))
  rw [hreport] at hreported
  obtain ⟨hregistry, htasks'⟩ := hreported
  refine ⟨htasks', error, c.restartResult (s.run deadline request).1.restartEnds, ?_⟩
  rw [hregistry, ← hstatus]
  exact (Registry.updated_modify f hf hfind).refresh

end

/-! ## What the status of a component is made of -/

/-- A run for a component, and how it ended. -/
structure ServedRun where
  component : String
  outcome : RunOutcome

/-- The status of a component is what its runs have made of it. -/
structure Billed (status : ComponentStatus) (runs : List ServedRun) : Prop where
  errorCount : status.errorCount = (runs.countP (·.outcome.isFailed)).toUInt64
  medium : status.priority = .medium → (status.degraded = true ↔ ∃ r ∈ runs, r.outcome.isCritical = true)
  low : status.priority = .low → (status.active = false ↔ ∃ r ∈ runs, r.outcome.isFailed = true)
  /-- No run takes a component of medium priority down. -/
  running : status.priority = .medium → status.active = true
  /-- A component of low priority that is degraded was disabled. -/
  disabled : status.priority = .low → status.degraded = true → status.active = false

section

variable {status : ComponentStatus} {runs : List ServedRun} {r : ServedRun}

theorem billed_fresh (name : String) (priority : Priority) : Billed (.fresh name priority) [] where
  errorCount := rfl
  medium := fun _ => by simp [ComponentStatus.fresh]
  low := fun _ => by simp [ComponentStatus.fresh]
  running := fun _ => rfl
  disabled := fun _ h => absurd h (by simp [ComponentStatus.fresh])

theorem exists_concat (p : ServedRun → Bool) (runs : List ServedRun) (r : ServedRun) :
    (∃ x ∈ runs ++ [r], p x = true) ↔ (∃ x ∈ runs, p x = true) ∨ p r = true := by
  simp [or_and_right, exists_or]

/-- A run that did not fail adds nothing. -/
theorem Billed.other (h : Billed status runs) (hother : r.outcome.isFailed = false) : Billed status (runs ++ [r]) where
  errorCount := by
    rw [h.errorCount, List.countP_append, List.countP_singleton, hother]
    rfl
  medium := by
    intro hpriority
    have hcritical : r.outcome.isCritical = false := by
      by_contra hcritical
      rw [RunOutcome.isFailed_of_isCritical (by simpa using hcritical)] at hother
      exact absurd hother (by simp)
    rw [h.medium hpriority, exists_concat (·.outcome.isCritical), hcritical]
    simp
  low := by
    intro hpriority
    rw [h.low hpriority, exists_concat (·.outcome.isFailed), hother]
    simp
  running := h.running
  disabled := h.disabled

/-- The report of a failure counts it, and does to a component of medium or low priority what the failure calls for. -/
theorem Billed.failed {c : Component} (h : Billed c.status runs) (hfailed : r.outcome.isFailed = true)
    (redactor : Redactor) (error : String) (result : Except String Unit) :
    Billed (c.afterFailure redactor error r.outcome.isCritical result) (runs ++ [r]) := by
  have hcontinues := continues_afterFailure c redactor error r.outcome.isCritical result
  -- What reports do not restart is left as the first half of the report leaves it.
  have hafter : c.status.restarts = false →
      c.afterFailure redactor error r.outcome.isCritical result =
        c.status.reported (redactor.text error) r.outcome.isCritical := by
    intro hrestarts
    unfold Component.afterFailure
    dsimp only
    rw [hrestarts]
    rfl
  have hmedium : c.status.priority = .medium → c.status.restarts = false := fun hp => by
    simp [ComponentStatus.restarts, hp]
  have hlow : c.status.priority = .low → (c.afterFailure redactor error r.outcome.isCritical result).active = false := by
    intro hp
    rw [hafter (by simp [ComponentStatus.restarts, hp])]
    unfold ComponentStatus.reported
    by_cases hdown : c.status.isDown = true
    · rw [if_pos hdown]
      show c.status.active = false
      rcases Bool.or_eq_true_iff.mp hdown with hdegraded | hinactive
      · exact h.disabled hp hdegraded
      · simpa using hinactive
    · rw [if_neg hdown, hp]
      rfl
  refine ⟨?_, ?_, ?_, ?_, ?_⟩
  · rw [hcontinues.errorCount, h.errorCount, List.countP_append, List.countP_singleton, hfailed]
    exact (UInt64.ofNat_add _ _).symm
  · intro hpriority
    rw [hcontinues.priority] at hpriority
    rw [hafter (hmedium hpriority), exists_concat (·.outcome.isCritical), ← h.medium hpriority]
    have hactive := h.running hpriority
    unfold ComponentStatus.reported ComponentStatus.isDown
    rw [hactive, hpriority]
    cases hdegraded : c.status.degraded <;> cases r.outcome.isCritical <;>
      simp [ComponentStatus.countFailure, ComponentStatus.degrade, hdegraded]
  · intro hpriority
    rw [hcontinues.priority] at hpriority
    rw [hlow hpriority, exists_concat (·.outcome.isFailed), hfailed]
    simp
  · intro hpriority
    rw [hcontinues.priority] at hpriority
    rw [hafter (hmedium hpriority)]
    unfold ComponentStatus.reported
    split
    · exact h.running hpriority
    · rw [hpriority]
      dsimp only
      split <;> exact h.running hpriority
  · intro hpriority _
    rw [hcontinues.priority] at hpriority
    exact hlow hpriority

end

/-! ## Commands -/

/-- The run for a component that a command asks for, and how it ends. -/
def served? (s : Session) : Command → Option ServedRun
  | .runFor component request =>
    some ⟨component, (s.runFor (request.deadline s.now) component request).2.2⟩
  | _ => none

/-- The runs for components among some commands, and how they ended. -/
def servedRuns (s : Session) : List Command → List ServedRun
  | [] => []
  | command :: rest => (s.served? command).toList ++ (s.step command).1.servedRuns rest

/-- The run that a command asks for, if it is for a component that is registered under a name. -/
def runOf? (s : Session) (name : String) (command : Command) : Option ServedRun :=
  (s.served? command).filter fun r => r.component = name ∧ (s.registry.find? name).isSome = true

/-- The runs of the component that is registered under a name, among some commands. -/
def runsOf (s : Session) (name : String) : List Command → List ServedRun
  | [] => []
  | command :: rest => (s.runOf? name command).toList ++ (s.step command).1.runsOf name rest

variable {s : Session} {command : Command} {commands : List Command} {name : String} {c : Component}

theorem servedRuns_append (s : Session) (commands more : List Command) :
    s.servedRuns (commands ++ more) = s.servedRuns commands ++ (s.after commands).servedRuns more := by
  induction commands generalizing s with
  | nil => rfl
  | cons command rest ih =>
    show (s.served? command).toList ++ (s.step command).1.servedRuns (rest ++ more) =
      ((s.served? command).toList ++ (s.step command).1.servedRuns rest) ++ _
    rw [ih, List.append_assoc]
    rfl

theorem runsOf_concat (s : Session) (name : String) (commands : List Command) (command : Command) :
    s.runsOf name (commands ++ [command]) = s.runsOf name commands ++ ((s.after commands).runOf? name command).toList := by
  induction commands generalizing s with
  | nil => exact List.append_nil _
  | cons first rest ih =>
    show (s.runOf? name first).toList ++ (s.step first).1.runsOf name (rest ++ [command]) =
      ((s.runOf? name first).toList ++ (s.step first).1.runsOf name rest) ++ _
    rw [ih, List.append_assoc]
    rfl

theorem runOf?_none (h : s.registry.find? name = none) (command : Command) : s.runOf? name command = none := by
  unfold runOf?
  rw [h]
  simp

/-- What comes after a command is no more than what is due. -/
theorem step_unattended (htasks : (s.perform command).1.tasks = []) :
    (s.step command).1.tasks = [] ∧ (s.step command).1.registry = (s.perform command).1.registry := by
  have hsettled := throughTime_unattended.settle (s.perform command).1 (s.perform command).1.now
  exact ⟨hsettled.tasks htasks, hsettled.registry htasks⟩

/-- A registration adds a fresh component under a name that is free, and is refused otherwise. -/
theorem perform_registered (s : Session) (name : String) (priority : Priority) (restart : Option (List HookStep)) :
    (s.perform (.register name priority restart)).1.tasks = s.tasks ∧
      ((s.perform (.register name priority restart)).1.registry = s.registry ∨
        s.registry.find? name = none ∧ ∃ handler, ∀ other,
          (s.perform (.register name priority restart)).1.registry.find? other =
            if other = name then some ⟨.fresh name priority, handler⟩ else s.registry.find? other) := by
  unfold perform
  dsimp only
  cases restart with
  | none =>
    dsimp only
    split
    · next registry events hok =>
      obtain ⟨hfree, hfind⟩ := Registry.register_ok hok
      exact ⟨rfl, .inr ⟨hfree, none, hfind⟩⟩
    · exact ⟨rfl, .inl rfl⟩
  | some script =>
    dsimp only
    split
    · next registry events hok =>
      obtain ⟨hfree, hfind⟩ := Registry.register_ok hok
      exact ⟨rfl, .inr ⟨hfree, some s.hooks.length, hfind⟩⟩
    · exact ⟨rfl, .inl rfl⟩

/-- Any other command than a run for a component or a registration leaves the registry alone, if it spares it. -/
theorem perform_unattended (hspares : command.spares = true) (hregister : ∀ name priority restart,
    command ≠ .register name priority restart) (hrunFor : ∀ component request, command ≠ .runFor component request) :
    s.Unattended (s.perform command).1 := by
  cases command with
  | register name priority restart => exact absurd rfl (hregister name priority restart)
  | runFor component request => exact absurd rfl (hrunFor component request)
  | status name =>
    unfold perform
    dsimp only
    split <;> exact .refl s
  | run request => exact s.run_unattended (request.deadline s.now) request
  | sleep ms => exact s.sleep_unattended none ms
  | shutdown => exact ⟨fun _ => rfl, fun _ => rfl⟩
  | setCleanup script => exact .of_same rfl rfl
  | setLogControl script => exact .of_same rfl rfl
  | breaker command => exact .of_same rfl rfl
  | resume => exact .of_same rfl rfl
  | constraint kind => exact .refl s
  | snapshot => exact .refl s
  | debug => exact .refl s
  | statistics => exact .refl s
  | summary => exact .refl s
  | recent limit => exact .refl s
  | tasks => exact .refl s
  | _ => exact absurd hspares (by simp [Command.spares])

/-- The entry of a name in the registry of a session is what the runs of the component have made of it. -/
def Accounts (s : Session) (name : String) (runs : List ServedRun) : Prop :=
  match s.registry.find? name with
  | none => runs = []
  | some c => Billed c.status runs

/-- What a command does that neither registers the name nor reports a failure of it. -/
theorem Accounts.of_same {s' : Session} {runs : List ServedRun} (h : s.Accounts name runs)
    (hsame : s'.registry.find? name = s.registry.find? name)
    (hruns : ∀ r ∈ s.runOf? name command, r.outcome.isFailed = false) :
    s'.Accounts name (runs ++ (s.runOf? name command).toList) := by
  unfold Accounts at h ⊢
  rw [hsame]
  cases hfind : s.registry.find? name with
  | none =>
    rw [hfind] at h
    rw [runOf?_none hfind, h]
    rfl
  | some c =>
    rw [hfind] at h
    cases hrun : s.runOf? name command with
    | none =>
      rw [Option.toList_none, List.append_nil]
      exact h
    | some r => exact h.other (hruns r hrun)

/-- A run for a component accounts for its failure, if it fails. -/
theorem Accounts.runFor {component : String} {request : RunRequest} {runs : List ServedRun} (h : s.Accounts name runs)
    (htasks : s.tasks = []) (hcompleted : (s.runFor (request.deadline s.now) component request).2.2 ≠ .cancelled) :
    (s.runFor (request.deadline s.now) component request).1.tasks = [] ∧
      (s.runFor (request.deadline s.now) component request).1.Accounts name
        (runs ++ (s.runOf? name (.runFor component request)).toList) := by
  have hresult := congrArg Prod.snd (runFor_eq_run hcompleted)
  have hserved : ∀ r ∈ s.runOf? name (.runFor component request),
      (r.component = component ∧ r.outcome = (s.run (request.deadline s.now) request).2.2) ∧
        r.component = name ∧ s.registry.find? name ≠ none := by
    intro r hr
    obtain ⟨hserved, hregistered⟩ := Option.filter_eq_some_iff.mp hr
    obtain rfl := Option.some.inj hserved
    obtain ⟨hname, hsome⟩ : component = name ∧ (s.registry.find? name).isSome = true := by simpa using hregistered
    exact ⟨⟨rfl, hresult⟩, hname, Option.isSome_iff_ne_none.mp hsome⟩
  by_cases hreported : (s.run (request.deadline s.now) request).2.2.isFailed = false ∨
      s.registry.find? component = none
  · obtain ⟨hloops, hregistry⟩ := runFor_unattended hreported htasks
    refine ⟨hloops, h.of_same (by rw [hregistry]) fun r hr => ?_⟩
    obtain ⟨⟨hcomponent, houtcome⟩, hname, hfind⟩ := hserved r hr
    rw [houtcome]
    exact hreported.resolve_right (by rw [← hcomponent, hname]; exact hfind)
  · obtain ⟨hfailed, hfind⟩ := not_or.mp hreported
    rw [Bool.not_eq_false] at hfailed
    obtain ⟨c, hfind⟩ := Option.ne_none_iff_exists'.mp hfind
    obtain ⟨hloops, error, result, hupdated⟩ := runFor_updated hfailed hcompleted hfind htasks
    refine ⟨hloops, ?_⟩
    by_cases hname : name = component
    · subst hname
      have hrun : s.runOf? name (.runFor name request) =
          some ⟨name, (s.run (request.deadline s.now) request).2.2⟩ := by
        show Option.filter _ (some (⟨name, (s.runFor (request.deadline s.now) name request).2.2⟩ : ServedRun)) = _
        rw [hresult, hfind]
        simp
      unfold Accounts at h ⊢
      rw [hfind] at h
      rw [hupdated.self, hrun]
      exact Billed.failed (r := ⟨name, (s.run (request.deadline s.now) request).2.2⟩) h hfailed _ error result
    · refine h.of_same (hupdated.others name hname) fun r hr => ?_
      obtain ⟨⟨hcomponent, -⟩, hname', -⟩ := hserved r hr
      exact absurd (hname'.symm.trans hcomponent) hname

/-- What a command does that spares registry and governor and is not dropped, in a session without loops. -/
theorem Accounts.step {runs : List ServedRun} (h : s.Accounts name runs) (htasks : s.tasks = [])
    (hspares : command.spares = true) (hcompleted : ∀ r ∈ s.served? command, r.outcome ≠ .cancelled) :
    (s.step command).1.tasks = [] ∧
      (s.step command).1.Accounts name (runs ++ (s.runOf? name command).toList) := by
  -- What is due after the command leaves the registry as the command has left it.
  suffices hperform : (s.perform command).1.tasks = [] ∧
      (s.perform command).1.Accounts name (runs ++ (s.runOf? name command).toList) by
    obtain ⟨hloops, haccounts⟩ := hperform
    obtain ⟨hloops', hregistry⟩ := step_unattended hloops
    refine ⟨hloops', ?_⟩
    unfold Accounts at haccounts ⊢
    rw [hregistry]
    exact haccounts
  by_cases hrunFor : ∃ component request, command = .runFor component request
  · obtain ⟨component, request, rfl⟩ := hrunFor
    have hended : (s.runFor (request.deadline s.now) component request).2.2 ≠ .cancelled := hcompleted _ rfl
    exact h.runFor htasks hended
  · have hnone : s.runOf? name command = none := by
      unfold runOf? served?
      split
      · next component request => exact absurd ⟨component, request, rfl⟩ hrunFor
      · rfl
    have hsame : ∀ {s' : Session}, s'.registry.find? name = s.registry.find? name →
        s'.Accounts name (runs ++ (s.runOf? name command).toList) :=
      fun hregistry => h.of_same hregistry fun r hr => absurd hr (by simp [hnone])
    by_cases hregister : ∃ name priority restart, command = .register name priority restart
    · obtain ⟨other, priority, restart, rfl⟩ := hregister
      obtain ⟨hloops, hregistry | ⟨hfree, handler, hfind⟩⟩ := s.perform_registered other priority restart
      · exact ⟨hloops.trans htasks, hsame (by rw [hregistry])⟩
      · refine ⟨hloops.trans htasks, ?_⟩
        by_cases hname : name = other
        · subst hname
          unfold Accounts at h ⊢
          rw [hfree] at h
          rw [hfind, if_pos rfl, hnone, h]
          exact billed_fresh name priority
        · exact hsame (by rw [hfind, if_neg hname])
    · have hunattended : s.Unattended (s.perform command).1 :=
        perform_unattended hspares (fun name priority restart heq => hregister ⟨name, priority, restart, heq⟩)
          fun component request heq => hrunFor ⟨component, request, heq⟩
      exact ⟨hunattended.tasks htasks, hsame (by rw [hunattended.registry htasks])⟩

/-- After any commands that spare registry and governor and are not dropped, every entry of the registry is accounted
for. -/
theorem accounts_after (htasks : s.tasks = []) (hempty : s.registry.find? name = none)
    (hspares : ∀ command ∈ commands, command.spares = true)
    (hcompleted : ∀ r ∈ s.servedRuns commands, r.outcome ≠ .cancelled) :
    (s.after commands).tasks = [] ∧ (s.after commands).Accounts name (s.runsOf name commands) := by
  induction commands using List.reverseRecOn with
  | nil =>
    refine ⟨htasks, ?_⟩
    unfold Accounts
    rw [show (s.after []).registry.find? name = none from hempty]
    rfl
  | append_singleton commands command ih =>
    rw [servedRuns_append] at hcompleted
    obtain ⟨hloops, haccounts⟩ := ih (fun other hmem => hspares other (List.mem_append_left _ hmem))
      fun r hr => hcompleted r (List.mem_append_left _ hr)
    have hlast : ∀ r ∈ (s.after commands).served? command, r.outcome ≠ .cancelled := by
      intro r hr
      refine hcompleted r (List.mem_append_right _ ?_)
      simp [servedRuns, Option.mem_def.mp hr]
    rw [after_append, runsOf_concat]
    exact haccounts.step hloops (hspares command (by simp)) hlast

/-- **The ledger of runs for components.** In every session, after any commands that leave registry and governor to runs
for components and to registrations, if none of these runs was dropped:

* each run for a component has handed back what the run alone would have handed back at the same time, whether or not the
  component is registered and whatever its restart handler does; if it is not registered the registry is untouched;
* a component that is registered has as many errors, in 64 bits, as its runs have failed. One of medium priority is
  degraded if and only if one of its runs failed with the decision to stop trading or to escalate, and one of low priority
  is disabled if and only if one of its runs failed.

Without a deadline a run for a component is only dropped by a restart handler that panics. -/
theorem runFor_ledger {settings : Settings} {clock : Clock} (hnew : new? settings clock = some s)
    (commands : List Command) (hspares : ∀ command ∈ commands, command.spares = true)
    (hcompleted : ∀ r ∈ s.servedRuns commands, r.outcome ≠ .cancelled) :
    (∀ before component request later, commands = before ++ .runFor component request :: later →
      ((s.after before).perform (.runFor component request)).2 = ((s.after before).perform (.run request)).2 ∧
        ((s.after before).registry.find? component = none →
          ((s.after before).step (.runFor component request)).1.registry = (s.after before).registry)) ∧
    (∀ name c, (s.after commands).registry.find? name = some c →
      let runs := s.runsOf name commands
      c.status.errorCount = (runs.countP (·.outcome.isFailed)).toUInt64 ∧
        (c.status.priority = .medium → (c.status.degraded = true ↔ ∃ r ∈ runs, r.outcome.isCritical = true)) ∧
        (c.status.priority = .low → (c.status.active = false ↔ ∃ r ∈ runs, r.outcome.isFailed = true))) ∧
    ∀ (s' : Session) component request, (s'.runFor none component request).2.2 = .cancelled →
      (s'.runFor none component request).1.panicked = true := by
  have hfresh := new?_fresh hnew
  have hempty : ∀ name, s.registry.find? name = none := by
    intro name
    rw [hfresh.registry]
    rfl
  refine ⟨?_, ?_, fun s' component request => runFor_completes⟩
  · rintro before component request later rfl
    rw [servedRuns_append] at hcompleted
    have hended : ((s.after before).runFor (request.deadline (s.after before).now) component request).2.2 ≠ .cancelled :=
      hcompleted _ (List.mem_append_right _ List.mem_cons_self)
    obtain ⟨hloops, -⟩ := accounts_after hfresh.tasks (hempty component)
      (fun command hmem => hspares command (List.mem_append_left _ hmem))
      fun r hr => hcompleted r (List.mem_append_left _ hr)
    constructor
    · show Reply.run ((s.after before).runFor (request.deadline (s.after before).now) component request).2.1
          ((s.after before).runFor (request.deadline (s.after before).now) component request).2.2 =
        Reply.run ((s.after before).run (request.deadline (s.after before).now) request).2.1
          ((s.after before).run (request.deadline (s.after before).now) request).2.2
      rw [runFor_eq_run hended]
    · intro hfind
      have hperformed : ((s.after before).perform (.runFor component request)).1.tasks = [] ∧
          ((s.after before).perform (.runFor component request)).1.registry = (s.after before).registry :=
        runFor_unattended (.inr hfind) hloops
      exact (step_unattended hperformed.1).2.trans hperformed.2
  · intro name c hfind
    obtain ⟨-, haccounts⟩ := accounts_after hfresh.tasks (hempty name) hspares hcompleted
    unfold Accounts at haccounts
    rw [hfind] at haccounts
    exact ⟨haccounts.errorCount, haccounts.medium, haccounts.low⟩

/-- A failure before its component is registered; then for one of two components a run with a value, and for each one that
fails for good. The breaker is active by then, and the last run is refused. -/
def served : List Command :=
  [.runFor "feed" failing, .register "feed" .low none, .register "router" .medium (some []), .runFor "router" flaky,
    .runFor "feed" failing, .runFor "router" failing, .runFor "feed" ping]

/-- Each component has one error, which has disabled the one of low priority and degraded the other. -/
theorem runFor_ledger_served :
    ∃ s, new? twoStrikes = some s ∧ (∀ command ∈ served, command.spares = true) ∧
      (∀ r ∈ s.servedRuns served, r.outcome ≠ .cancelled) ∧
      ((s.after (served.take 6)).perform (.runFor "feed" ping)).2 = ((s.after (served.take 6)).perform (.run ping)).2 ∧
      ∃ feed router, (s.after served).registry.find? "feed" = some feed ∧
        (s.after served).registry.find? "router" = some router ∧
        feed.status.errorCount = 1 ∧ feed.status.active = false ∧
        router.status.errorCount = 1 ∧ router.status.degraded = true := by
  have hvalues : (new? twoStrikes).map (fun s =>
      ([(s.servedRuns served).countP (·.outcome = .cancelled), (s.runsOf "feed" served).countP (·.outcome.isFailed),
        (s.runsOf "router" served).countP (·.outcome.isFailed), (s.runsOf "router" served).countP (·.outcome.isCritical)],
      ["feed", "router"].map fun name => ((s.after served).registry.find? name).map (·.status.priority))) =
      some ([0, 1, 1, 1], [some .low, some .medium]) := by decide +kernel
  obtain ⟨s, hnew, hvalues⟩ := Option.map_eq_some_iff.mp hvalues
  simp only [Prod.mk.injEq, List.cons.injEq, List.map_cons, List.map_nil, and_true] at hvalues
  obtain ⟨⟨hdropped, hfeed, hrouter, hcritical⟩, hlow, hmedium⟩ := hvalues
  obtain ⟨feed, hfindFeed, hlow⟩ := Option.map_eq_some_iff.mp hlow
  obtain ⟨router, hfindRouter, hmedium⟩ := Option.map_eq_some_iff.mp hmedium
  have hspares : ∀ command ∈ served, command.spares = true := by decide
  have hcompleted : ∀ r ∈ s.servedRuns served, r.outcome ≠ .cancelled := by
    simpa using List.countP_eq_zero.mp hdropped
  obtain ⟨hresults, hstatuses, -⟩ := runFor_ledger hnew served hspares hcompleted
  obtain ⟨hfeedErrors, -, hdisabled⟩ := hstatuses "feed" feed hfindFeed
  obtain ⟨hrouterErrors, hdegraded, -⟩ := hstatuses "router" router hfindRouter
  rw [hfeed] at hfeedErrors
  rw [hrouter] at hrouterErrors
  refine ⟨s, hnew, hspares, hcompleted, (hresults (served.take 6) "feed" ping [] rfl).1, feed, router, hfindFeed,
    hfindRouter, hfeedErrors, ?_, hrouterErrors, ?_⟩
  · refine (hdisabled hlow).mpr (List.countP_pos_iff.mp ?_)
    omega
  · refine (hdegraded hmedium).mpr (List.countP_pos_iff.mp ?_)
    omega

end Session

end Failsafe
