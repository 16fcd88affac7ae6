import Failsafe.Breaker.Command
import Failsafe.Session

/-!
# Commands

What can be asked of a session, one command at a time, and what it answers. After each command everything
that is due at the present time happens too; then the answer is taken, together with the events and the hook
calls since the command before.
-/

namespace Failsafe

inductive Command where
  | register (name : String) (priority : Priority) (restart : Option (List HookStep))
  | report (name error : String) (isCritical : Bool)
  | reset (name : String)
  | status (name : String)
  | disablePriority (priority : Priority) (reason : String)
  | updateResource (kind : ResourceKind) (usage : Float)
  | setThresholds (kind : ResourceKind) (thresholds : Thresholds)
  | constraint (kind : ResourceKind)
  | setConsistent (value : Bool)
  | snapshot
  | handle (kind : ResourceKind) (usage : Float)
  | poll (sampling : Sampling)
  | setCleanup (script : List HookStep)
  | setLogControl (script : List HookStep)
  | debug
  | run (request : Session.RunRequest)
  | runFor (component : String) (request : Session.RunRequest)
  | sleep (ms : Nat)
  | breaker (command : BreakerCommand)
  | resume
  | statistics
  | summary
  | recent (limit : Nat)
  | startMonitor (script : List Sampling)
  | startValidator (script : List Finding)
  | tasks
  | shutdown

/-- What a command answers. -/
inductive Reply where
  | nothing
  | done
  | error (e : Error)
  | degradation (d : Degradation ComponentStatus)
  | status (s : ComponentStatus)
  | names (names : List String)
  | level (l : ResourceLevel)
  | constraint (c : Constraint)
  | snapshot (s : HealthSnapshot)
  | actions (actions : List GovernorAction)
  | texts (texts : List String)
  | run (calls : List Session.Call) (outcome : Session.RunOutcome)
  | metrics (m : BreakerMetrics Nat)
  | statistics (s : Statistics RecentError Nat)
  | summary (s : Summary RecentError)
  | incidents (incidents : List Incident)
  | count (n : Nat)

/-- What can be seen of a session after a command. -/
structure Report where
  reply : Reply
  time : Nat
  events : List Event
  hookCalls : List String
  systemState : SystemState
  /-- The halt flag. -/
  halted : Bool
  /-- The halt flag or an active breaker. -/
  stopTrading : Bool
  throttled : Bool
  breaker : Breaker
  historySize : Nat

namespace Session

/-- Takes over a registry and the events of changing it. -/
def withRegistry (s : Session) (registry : Registry) (events : List Event) : Session :=
  { s with registry }.emit events

/-- Marks the session when a hook panicked in the foreground. -/
def orPanic (s : Session) (panicked : Bool) : Session :=
  { s with panicked := s.panicked || panicked }

/-- Carries out a command. -/
def perform (s : Session) : Command → Session × Reply
  | .register name priority restart =>
    let (s, hook) : Session × Option Nat := match restart with
      | some script => let (s, hook) := s.addHook ("restart " ++ name) script; (s, some hook)
      | none => (s, none)
    match s.registry.register name priority hook with
    | .ok (registry, events) => (s.withRegistry registry events, .done)
    | .error e => (s, .error e)
  | .report name error isCritical =>
    match s.report none name error isCritical with
    | (s, .finished (.ok d)) => (s, .degradation d)
    | (s, .finished (.error e)) => (s, .error e)
    | (s, .cancelled) => (s, .nothing)
  | .reset name =>
    match s.registry.reset name with
    | .ok (registry, events, status) => (s.withRegistry registry events, .status status)
    | .error e => (s, .error e)
  | .status name =>
    match s.registry.status name with
    | .ok status => (s, .status status)
    | .error e => (s, .error e)
  | .disablePriority priority reason =>
    let (registry, events, names) := s.registry.disablePriority priority reason
    (s.withRegistry registry events, .names names)
  | .updateResource kind usage =>
    let (registry, events, level) := s.registry.updateResource kind usage
    (s.withRegistry registry events, .level level)
  | .setThresholds kind thresholds =>
    match s.registry.setThresholds kind thresholds with
    | .ok (registry, events) => (s.withRegistry registry events, .done)
    | .error e => (s, .error e)
  | .constraint kind => (s, .constraint (s.registry.resources.get kind))
  | .setConsistent value =>
    let (registry, events) := s.registry.setConsistent value
    (s.withRegistry registry events, .nothing)
  | .snapshot => (s, .snapshot s.registry.snapshot)
  | .handle kind usage =>
    let (s, actions, panicked) := s.handleSample kind usage
    (s.orPanic panicked, .actions actions)
  | .poll sampling =>
    let (s, hook) := s.addHook "sample" []
    let (s, _) := s.callHook hook
    let (s, actions, panicked) := s.handleSampling sampling
    (s.orPanic panicked, .actions actions)
  | .setCleanup script =>
    let (s, hook) := s.addHook "cleanup" script
    ({ s with governor := { s.governor with cleanup := some hook } }, .nothing)
  | .setLogControl script =>
    let (s, hook) := s.addHook "level error" script
    ({ s with governor := { s.governor with logControl := some hook } }, .nothing)
  | .debug => (s, .texts [s.registry.text, s.governor.text])
  | .run request =>
    let (s, calls, outcome) := s.run (request.deadline s.now) request
    (s, .run calls outcome)
  | .runFor component request =>
    let (s, calls, outcome) := s.runFor (request.deadline s.now) component request
    (s, .run calls outcome)
  | .sleep ms => ((s.sleep none ms).1, .nothing)
  | .breaker command =>
    let breaker := s.executor.breaker.apply s.now command
    ({ s with executor := { s.executor with breaker } },
     if command = .metrics then .metrics breaker.metrics else .nothing)
  | .resume =>
    let (executor, events) := s.executor.resume
    ({ s with executor }.emit events, .nothing)
  | .statistics => (s, .statistics s.statistics)
  | .summary => (s, .summary (s.executor.history.summary s.executor.redactor))
  | .recent limit => (s, .incidents (s.executor.history.recent limit))
  | .startMonitor script =>
    (s.startTask (.monitor script) "sample" s.settings.resources.pollInterval, .nothing)
  | .startValidator script =>
    (s.startTask (.validator script) "validate" s.settings.validation.checkInterval, .nothing)
  | .tasks => (s, .count s.tasks.length)
  | .shutdown => (s.shutdown, .nothing)

/-- The hook calls since they were last counted, hook by hook. -/
def hookCalls (s : Session) : List String :=
  s.hooks.flatMap fun hook => List.replicate hook.calls hook.label

/-- What can be seen now. -/
def look (s : Session) (reply : Reply) : Report :=
  { reply
    time := s.now
    events := s.log.reverse
    hookCalls := s.hookCalls
    systemState := s.registry.state
    halted := s.executor.halted
    stopTrading := s.shouldStopTrading
    throttled := s.governor.throttled
    breaker := s.executor.breaker
    historySize := s.executor.history.size }

/-- Forgets the events and hook calls that have been reported. -/
def forget (s : Session) : Session :=
  { s with log := [], hooks := s.hooks.map fun hook => { hook with calls := 0 } }

/-- Carries out a command, lets happen what is due, and reports. -/
def step (s : Session) (command : Command) : Session × Report :=
  let (s, reply) := s.perform command
  let s := s.settle s.now
  (s.forget, s.look reply)

/-- Carries out commands in order; there is no answer once a hook has panicked in the foreground. -/
def play (s : Session) : List Command → Option (List Report)
  | [] => some []
  | command :: rest =>
    let (s, report) := s.step command
    if s.panicked then none else (s.play rest).map (report :: ·)

end Session

end Failsafe
