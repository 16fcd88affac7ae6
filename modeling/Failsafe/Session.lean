import Failsafe.Executor
import Failsafe.Health.Governor
import Failsafe.Session.Hook

/-!
# Sessions

A session is everything one service shares, and its clock: the executor, the registry, the governor, the hooks,
and the background loops. Time passes only in sleeps. `settle` lets everything happen that is due by a given time,
in the order of the times; `sleep` moves the time, and what is due before the sleeper wakes happens first. When the
sleeper's time has come it goes on before anything else that is due at the same moment.

A sleep may have a deadline. If the deadline comes first, the sleeper never goes on: whatever it was doing is
left as it is.
-/

namespace Failsafe

/-- What a background loop does each time it wakes. -/
inductive Job where
  /-- Samples the resources and hands the readings to the governor. -/
  | monitor (script : List Sampling)
  /-- Asks whether the outside state is consistent. -/
  | validator (script : List Finding)

/-- A background loop: its hook, when it wakes next, and how far apart it wakes. -/
structure Task where
  job : Job
  hook : Nat
  due : Nat
  period : Nat
  /-- Whether the loop still runs. -/
  alive : Bool

structure Session where
  /-- Milliseconds since the session began. -/
  now : Nat
  clock : Clock
  settings : Settings
  executor : Executor
  registry : Registry
  governor : Governor
  hooks : List Hook
  tasks : List Task
  /-- Events since they were last taken, newest first. -/
  log : List Event
  /-- Set when a hook panicked in the foreground; nothing that follows counts. -/
  panicked : Bool

namespace Session

/-- A session with nothing registered, if the delays in the settings are durations. -/
def new? (settings : Settings) (clock : Clock := .short) : Option Session := do
  let executor ← Executor.ofSettings? settings clock
  some
    { now := 0
      clock
      settings
      executor
      registry := .new settings.resources executor.redactor
      governor := .new
      hooks := []
      tasks := []
      log := []
      panicked := false }

/-- The session of a service: the settings have to be valid. There is no answer when they are valid and a
delay is no duration all the same. -/
def open? (settings : Settings) (clock : Clock := .short) : Option (Except Error Session) :=
  match settings.validate with
  | .error e => some (.error (.ofSettings e))
  | .ok _ => (new? settings clock).map .ok

def emit (s : Session) (events : List Event) : Session := { s with log := events.reverse ++ s.log }

/-! ## Hooks -/

/-- Adds a hook; its number is the count of those before it. -/
def addHook (s : Session) (label : String) (script : List HookStep) : Session × Nat :=
  ({ s with hooks := s.hooks ++ [⟨label, script, 0⟩] }, s.hooks.length)

/-- Calls a hook: the call is counted and the script moves on. -/
def callHook (s : Session) (hook : Nat) : Session × HookStep :=
  match s.hooks[hook]? with
  | none => (s, .idle)
  | some h =>
    let called := { h with script := h.script.tail, calls := h.calls + 1 }
    ({ s with hooks := s.hooks.set hook called }, h.script.head?.getD .idle)

/-! ## Samples and checks -/

/-- Hands one sample to the governor. Gives the actions, and whether a hook panicked on the way. -/
def handleSample (s : Session) (kind : ResourceKind) (usage : Float) :
    Session × List GovernorAction × Bool :=
  let reaction := s.governor.handle s.registry kind usage
  let s := { s with governor := reaction.governor, registry := reaction.registry }
  let s := s.emit reaction.events
  match reaction.called with
  | none => (s, reaction.actions, false)
  | some hook =>
    let (s, step) := s.callHook hook
    -- The log level hook runs in place; the cleanup hook runs apart and can only fail for itself.
    (s, reaction.actions, step.answer = .panicked ∧ reaction.actions = [.logLevelLowered])

/-- Hands samples to the governor one by one. -/
def handleSamples (s : Session) :
    List (ResourceKind × Float) → Session × List GovernorAction × Bool
  | [] => (s, [], false)
  | (kind, usage) :: rest =>
    let (s, actions, panicked) := s.handleSample kind usage
    if panicked then (s, actions, true)
    else
      let (s, more, panicked) := s.handleSamples rest
      (s, actions ++ more, panicked)

/-- Hands what a sampler gave to the governor; a failed sampling does nothing. -/
def handleSampling (s : Session) : Sampling → Session × List GovernorAction × Bool
  | .readings samples => s.handleSamples samples
  | .failed => (s, [], false)

/-- Feeds a finding to the consistency flag. -/
def handleFinding (s : Session) (finding : Finding) : Session :=
  let (registry, events) := s.registry.setConsistent finding.flag
  { s with registry }.emit events

/-! ## Background loops -/

/-- Starts a background loop that wakes at once and then at every period. -/
def startTask (s : Session) (job : Job) (label : String) (period : Duration) : Session :=
  let (s, hook) := s.addHook label []
  { s with tasks := s.tasks ++ [⟨job, hook, s.now, max 1 period.millisUp, true⟩] }

/-- Lets a background loop do its job once. Until its next turn it sleeps on the clock of the session. -/
def runTask (s : Session) (index : Nat) : Session :=
  match s.tasks[index]? with
  | none => s
  | some task =>
    let again := { task with due := s.clock.wake task.due task.period }
    let (s, _) := s.callHook task.hook
    match task.job with
    | .monitor script =>
      let (s, _, panicked) := s.handleSampling (script.head?.getD (.readings []))
      { s with tasks := s.tasks.set index { again with job := .monitor script.tail, alive := !panicked } }
    | .validator script =>
      let s := s.handleFinding (script.head?.getD (.consistent true))
      { s with tasks := s.tasks.set index { again with job := .validator script.tail } }

/-- Something that is due at a time. -/
inductive Due where
  | cooldown
  | task (index : Nat)
deriving DecidableEq, Repr

/-- The earliest of the background loops and the breaker's timer that is due by a time; of two due at once
the one armed or started first. -/
def nextDue (s : Session) (time : Nat) : Option (Nat × Due) :=
  let earlier (best : Option (Nat × Due)) (due : Nat) (what : Due) : Option (Nat × Due) :=
    if time < due then best
    else match best with
      | some (t, _) => if due < t then some (due, what) else best
      | none => some (due, what)
  let timer := match s.executor.breaker.nextWake with
    | some due => earlier none due .cooldown
    | none => none
  (s.tasks.zipIdx.foldl fun best (task, i) =>
    if task.alive then earlier best task.due (.task i) else best) timer

/-- Lets one thing happen. -/
def happen (s : Session) (time : Nat) : Due → Session
  | .cooldown => { s with executor := { s.executor with breaker := s.executor.breaker.expire time } }
  | .task i => s.runTask i

/-- A bound for the number of things due by a time: every timer of the breaker wakes once, and a loop wakes at
most once a millisecond. -/
def dueBound (s : Session) (time : Nat) : Nat :=
  s.executor.breaker.sleeping.length + (s.tasks.map fun task => time + 1 - task.due).foldr (· + ·) 0

/-- Lets things happen that are due by a time, up to a number of them. -/
def settleUpTo (time : Nat) : Nat → Session → Session
  | 0, s => s
  | bound + 1, s =>
    match s.nextDue time with
    | none => s
    | some (moment, what) => settleUpTo time bound (s.happen moment what)

/-- Lets everything happen that is due by a time. -/
def settle (s : Session) (time : Nat) : Session := settleUpTo time (s.dueBound time) s

/-- Moves the clock to a later time. What is due before that time happens first. -/
def sleepTo (s : Session) (time : Nat) : Session :=
  if s.now < time then { s.settle (time - 1) with now := time } else s

/-- Sleeps for some milliseconds, or up to the deadline if that comes first; the flag tells whether the
sleeper woke. -/
def sleep (s : Session) (deadline : Option Nat) (ms : Nat) : Session × Bool :=
  let wake := s.clock.wake s.now ms
  match deadline with
  | some d => if wake ≤ d then (s.sleepTo wake, true) else (s.sleepTo d, false)
  | none => (s.sleepTo wake, true)

/-! ## Reports -/

/-- How something that takes time ended. -/
inductive Ending (α : Type) where
  | finished (value : α)
  /-- The deadline came first. -/
  | cancelled

/-- Reports a failure of a component. A restart by a handler takes the time the handler takes. -/
def report (s : Session) (deadline : Option Nat) (name error : String) (isCritical : Bool) :
    Session × Ending (Except Error (Degradation ComponentStatus)) :=
  let take (s : Session) (ended : Except Error (Registry × List Event × Degradation ComponentStatus)) :
      Session × Ending (Except Error (Degradation ComponentStatus)) :=
    match ended with
    | .error e => (s, .finished (.error e))
    | .ok (registry, events, degradation) =>
      ({ s with registry }.emit events, .finished (.ok degradation))
  match s.registry.beginReport name error isCritical with
  | .error e => (s, .finished (.error e))
  | .ok (registry, .settled outcome) => take { s with registry } (registry.concludeReport name outcome)
  | .ok (registry, .restarting none) => take { s with registry } (registry.endReport name (.ok ()))
  | .ok (registry, .restarting (some hook)) =>
    let (s, step) := { s with registry }.callHook hook
    match s.sleep deadline step.takes with
    | (s, false) => (s, .cancelled)
    | (s, true) =>
      match step.answer with
      | .done => take s (s.registry.endReport name (.ok ()))
      | .failed text => take s (s.registry.endReport name (.error text))
      | .panicked => ({ s with panicked := true }, .cancelled)

/-! ## Runs -/

/-- A call of an operation: when it began and with which parameters. -/
structure Call where
  time : Nat
  params : Fields

/-- How a run ended. -/
inductive RunOutcome where
  | value (result : Json)
  | stopped (error : RunError)
  | cancelled

/-- What others do to what a run shares with them. -/
def sideEffect (s : Session) : SideEffect → Session
  | .breakerFailure =>
    { s with executor := { s.executor with breaker := s.executor.breaker.recordFailure s.now } }
  | .breakerSuccess =>
    { s with executor := { s.executor with breaker := s.executor.breaker.recordSuccess } }
  | .breakerReset => { s with executor := { s.executor with breaker := s.executor.breaker.reset } }
  | .breakerShutdown => { s with executor := { s.executor with breaker := s.executor.breaker.shutdown } }
  | .resume =>
    let (executor, events) := s.executor.resume
    { s with executor }.emit events

/-- Sleeps like `sleep` while others act. What they would do after the sleeper has woken is not done. -/
def sleepAmong (s : Session) (deadline : Option Nat) (ms : Nat) :
    List (Nat × SideEffect) → Session × Bool
  | [] => s.sleep deadline ms
  | (gap, effect) :: rest =>
    let ms := s.clock.lasts s.now ms
    if ms < gap then s.sleep deadline ms
    else
      match s.sleep deadline gap with
      | (s, false) => (s, false)
      | (s, true) => (s.sideEffect effect).sleepAmong deadline (ms - gap) rest

/-- The calls of a run from here on. `limit` is the number of calls allowed in all. -/
def runCalls (deadline : Option Nat) (limit : Nat) (s : Session) (run : Run) (script : CallScript) :
    Session × List Call × RunOutcome :=
  let (step, script) := script.next
  let call : Call := ⟨s.now, run.params⟩
  match s.sleepAmong deadline step.takes step.during with
  | (s, false) => (s, [call], .cancelled)
  | (s, true) =>
    let s := step.side.foldl sideEffect s
    match step.result with
    | .ok value => ({ s with executor := s.executor.succeed }, [call], .value value)
    | .error failure =>
      let incident := s.executor.incident run failure
      let (executor, events, action) := s.executor.observe incident
      let s := { s with executor }.emit events
      if _h : action.shouldRetry ∧ run.attempt + 1 < limit then
        match s.sleepAmong deadline action.delay.millisUp step.between with
        | (s, false) => (s, [call], .cancelled)
        | (s, true) =>
          let (s, calls, outcome) := runCalls deadline limit s (Executor.advance run action) script
          (s, call :: calls, outcome)
      else
        let (executor, events) := s.executor.giveUp s.now incident action
        let error := RunError.failed run.operation failure (run.attempt + 1) action
        ({ s with executor }.emit events, [call], .stopped error)
termination_by limit - run.attempt
decreasing_by
  simp only [Executor.advance]
  omega

/-- A run as it is asked for. -/
structure RunRequest where
  operation : String
  params : Fields
  script : CallScript
  /-- After how many milliseconds the run is dropped. -/
  timeout : Option Nat

def RunRequest.deadline (request : RunRequest) (now : Nat) : Option Nat := request.timeout.map (now + ·)

/-- Runs an operation, up to a deadline. -/
def run (s : Session) (deadline : Option Nat) (request : RunRequest) :
    Session × List Call × RunOutcome :=
  match s.executor.begin? request.operation request.params with
  | none => (s, [], .stopped (.circuitOpen request.operation))
  | some run => s.runCalls deadline s.executor.maxAttempts run request.script

/-- Runs an operation for a component: a failure that ends the run is reported, as critical when it stops
trading or escalates. -/
def runFor (s : Session) (deadline : Option Nat) (component : String) (request : RunRequest) :
    Session × List Call × RunOutcome :=
  match s.run deadline request with
  | (s, calls, .stopped (.failed operation failure attempts action)) =>
    let outcome := RunOutcome.stopped (.failed operation failure attempts action)
    match s.report deadline component failure.message (action.stopTrading || action.escalate) with
    | (s, .finished _) => (s, calls, outcome)
    | (s, .cancelled) => (s, calls, .cancelled)
  | other => other

/-- Whether trading has to stop: the halt flag is set or the breaker is active. -/
def shouldStopTrading (s : Session) : Bool := s.executor.halted || s.executor.breaker.active

/-- Ends the background loops and takes the breaker's timer away. -/
def shutdown (s : Session) : Session :=
  { s with
    executor := { s.executor with breaker := s.executor.breaker.shutdown }
    tasks := [] }

end Session

/-- Figures over everything a service has run: a summary with entries of type `ε`, and breaker figures with
times of type `τ`. -/
structure Statistics (ε τ : Type) where
  errors : Summary ε
  breaker : BreakerMetrics τ
  tradingHalted : Bool

/-- The figures of a session. -/
def Session.statistics (s : Session) : Statistics RecentError Nat :=
  { errors := s.executor.history.summary s.executor.redactor
    breaker := s.executor.breaker.metrics
    tradingHalted := s.shouldStopTrading }

end Failsafe
