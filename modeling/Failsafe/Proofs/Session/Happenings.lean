import Failsafe.Proofs.Session.Moves

/-!
# What happens while commands are carried out

Timers of the breaker wake and loops do their jobs while a command sleeps, and after it. `Session.happenings` lists all
of it, in order: each `Happening` with its moment and with the session it happened to. The functions that lead up to it
follow those that carry commands out, and name what happens instead of what comes of it.

What the list is good for is said by `Leads`. From `s` to `s'` there is nothing but the happenings of the list, each of
them due at its moment, and between them sessions that stay `Still`: they keep their loops and their throttle flag,
though the clock goes on and loops may be added. A command that hands no sample to the governor leads through its
happenings (`perform_elapses`), and so does all that is due after any command (`settle_elapses`); no moment lies after
the clock then. Once a command is over no loop is due any more (`lt_due_after`).
-/

namespace Failsafe

/-- Whether a command hands samples to the governor. -/
def Command.samples : Command → Bool
  | .handle _ _ | .poll _ => true
  | _ => false

namespace Session

/-- Something that falls due happens to a session at a moment. -/
structure Happening where
  moment : Nat
  what : Due
  before : Session

def Happening.after (h : Happening) : Session := h.before.happen h.moment h.what

/-! ## What happens, in order -/

/-- What is due by a time, up to a number of things. -/
def settleUpToHappenings (time : Nat) : Nat → Session → List Happening
  | 0, _ => []
  | bound + 1, s =>
    match s.nextDue time with
    | none => []
    | some (moment, what) => ⟨moment, what, s⟩ :: settleUpToHappenings time bound (s.happen moment what)

/-- What is due by a time. -/
def settleHappenings (s : Session) (time : Nat) : List Happening := settleUpToHappenings time (s.dueBound time) s

/-- What happens on the way to a later time. -/
def sleepToHappenings (s : Session) (time : Nat) : List Happening :=
  if s.now < time then s.settleHappenings (time - 1) else []

/-- What happens during a sleep. -/
def sleepHappenings (s : Session) (deadline : Option Nat) (ms : Nat) : List Happening :=
  let wake := s.clock.wake s.now ms
  match deadline with
  | some d => s.sleepToHappenings (if wake ≤ d then wake else d)
  | none => s.sleepToHappenings wake

/-- What happens during a sleep while others act. -/
def sleepAmongHappenings (s : Session) (deadline : Option Nat) (ms : Nat) : List (Nat × SideEffect) → List Happening
  | [] => s.sleepHappenings deadline ms
  | (gap, effect) :: rest =>
    let ms := s.clock.lasts s.now ms
    if ms < gap then s.sleepHappenings deadline ms
    else
      s.sleepHappenings deadline gap ++
        match s.sleep deadline gap with
        | (_, false) => []
        | (s, true) => (s.sideEffect effect).sleepAmongHappenings deadline (ms - gap) rest

/-- What happens during a run from here on. -/
def runCallsHappenings (deadline : Option Nat) (limit : Nat) (s : Session) (run : Run) (script : CallScript) :
    List Happening :=
  s.sleepAmongHappenings deadline script.next.1.takes script.next.1.during ++
    match s.sleepAmong deadline script.next.1.takes script.next.1.during with
    | (_, false) => []
    | (woken, true) =>
      let a : Attempt := ⟨s, run, script.next.1, script.next.1.side.foldl sideEffect woken⟩
      match a.step.result with
      | .ok _ => []
      | .error failure =>
        if _h : a.goesOn limit failure then
          (a.observed failure).sleepAmongHappenings deadline (a.action failure).delay.millisUp a.step.between ++
            match (a.observed failure).sleepAmong deadline (a.action failure).delay.millisUp a.step.between with
            | (_, false) => []
            | (next, true) =>
              runCallsHappenings deadline limit next (Executor.advance run (a.action failure)) script.next.2
        else []
termination_by limit - run.attempt
decreasing_by
  have hlt : run.attempt + 1 < limit := _h.2
  simp only [Executor.advance]
  omega

/-- What happens during a run. -/
def runHappenings (s : Session) (deadline : Option Nat) (request : RunRequest) : List Happening :=
  match s.executor.begin? request.operation request.params with
  | none => []
  | some run => runCallsHappenings deadline s.executor.maxAttempts s run request.script

/-- What happens during a report, while a handler restarts the component. -/
def reportHappenings (s : Session) (deadline : Option Nat) (name error : String) (isCritical : Bool) :
    List Happening :=
  match s.registry.beginReport name error isCritical with
  | .ok (registry, .restarting (some hook)) =>
    let (s, step) := { s with registry }.callHook hook
    s.sleepHappenings deadline step.takes
  | _ => []

/-- What happens during a run for a component, and during the report after it. -/
def runForHappenings (s : Session) (deadline : Option Nat) (component : String) (request : RunRequest) :
    List Happening :=
  s.runHappenings deadline request ++
    match s.run deadline request with
    | (s, _, .stopped (.failed _ failure _ action)) =>
      s.reportHappenings deadline component failure.message (action.stopTrading || action.escalate)
    | _ => []

/-- What happens while a command is carried out. -/
def performHappenings (s : Session) : Command → List Happening
  | .report name error isCritical => s.reportHappenings none name error isCritical
  | .run request => s.runHappenings (request.deadline s.now) request
  | .runFor component request => s.runForHappenings (request.deadline s.now) component request
  | .sleep ms => s.sleepHappenings none ms
  | _ => []

/-- What happens while a command is carried out and before its answer is taken. -/
def stepHappenings (s : Session) (command : Command) : List Happening :=
  let performed := (s.perform command).1
  s.performHappenings command ++ performed.settleHappenings performed.now

/-- What happens while commands are carried out one after the other. -/
def happenings (s : Session) : List Command → List Happening
  | [] => []
  | command :: rest => s.stepHappenings command ++ (s.step command).1.happenings rest

/-! ## Between two happenings -/

/-- The session `s'` has the settings and the clock of `s`. -/
structure SameSetup (s s' : Session) : Prop where
  settings : s'.settings = s.settings
  clock : s'.clock = s.clock

theorem SameSetup.trans {s s' s'' : Session} (h : s.SameSetup s') (h' : s'.SameSetup s'') : s.SameSetup s'' :=
  ⟨h'.settings.trans h.settings, h'.clock.trans h.clock⟩

/-- From `s` to `s'` time may have passed and loops may have come; nothing has become of those that were there. -/
structure Calm (s s' : Session) : Prop extends SameSetup s s' where
  now : s.now ≤ s'.now
  tasks : ∃ started : List Task, s'.tasks = s.tasks ++ started ∧ ∀ task ∈ started, 0 < task.period

/-- The throttle flag stays as it is. -/
def SameThrottle (s s' : Session) : Prop := s'.governor.throttled = s.governor.throttled

/-- From `s` to `s'` all is calm, and no sample has set or cleared the throttle flag. -/
structure Still (s s' : Session) : Prop extends Calm s s' where
  throttled : s.SameThrottle s'

section Calm

variable {s s' s'' : Session}

theorem Calm.of_same (hsetup : s.SameSetup s') (hnow : s'.now = s.now) (htasks : s'.tasks = s.tasks) : s.Calm s' :=
  ⟨hsetup, Nat.le_of_eq hnow.symm, [], by rw [htasks, List.append_nil], List.forall_mem_nil _⟩

theorem Calm.refl (s : Session) : s.Calm s := .of_same ⟨rfl, rfl⟩ rfl rfl

theorem Calm.trans (h : s.Calm s') (h' : s'.Calm s'') : s.Calm s'' := by
  obtain ⟨started, htasks, hperiods⟩ := h.tasks
  obtain ⟨started', htasks', hperiods'⟩ := h'.tasks
  refine ⟨h.toSameSetup.trans h'.toSameSetup, Nat.le_trans h.now h'.now, started ++ started', ?_,
    fun task htask => ?_⟩
  · rw [htasks', htasks, List.append_assoc]
  · rcases List.mem_append.mp htask with htask | htask
    · exact hperiods task htask
    · exact hperiods' task htask

theorem Still.of_same (hsetup : s.SameSetup s') (hnow : s'.now = s.now) (htasks : s'.tasks = s.tasks)
    (hthrottled : s'.governor.throttled = s.governor.throttled) : s.Still s' :=
  ⟨.of_same hsetup hnow htasks, hthrottled⟩

theorem Still.refl (s : Session) : s.Still s := .of_same ⟨rfl, rfl⟩ rfl rfl rfl

theorem Still.trans (h : s.Still s') (h' : s'.Still s'') : s.Still s'' :=
  ⟨h.toCalm.trans h'.toCalm, Eq.trans h'.throttled h.throttled⟩

theorem still_clock {time : Nat} (h : s.now ≤ time) : s.Still { s with now := time } :=
  ⟨⟨⟨rfl, rfl⟩, h, [], (List.append_nil _).symm, List.forall_mem_nil _⟩, rfl⟩

end Calm

variable (s : Session)

theorem throughHooks_sameSetup : ThroughHooks SameSetup where
  refl := fun _ => ⟨rfl, rfl⟩
  trans := SameSetup.trans
  hooks := fun _ _ => ⟨rfl, rfl⟩
  governor := fun _ _ => ⟨rfl, rfl⟩
  tended := fun _ => ⟨rfl, rfl⟩

theorem callHook_still (hook : Nat) : s.Still (s.callHook hook).1 := by
  unfold callHook
  split <;> exact .of_same ⟨rfl, rfl⟩ rfl rfl rfl

theorem sideEffect_still (effect : SideEffect) : s.Still (s.sideEffect effect) := by
  cases effect <;> exact .of_same ⟨rfl, rfl⟩ rfl rfl rfl

theorem sideEffects_still (effects : List SideEffect) : s.Still (effects.foldl sideEffect s) := by
  induction effects generalizing s with
  | nil => exact .refl s
  | cons effect rest ih => exact (s.sideEffect_still effect).trans (ih _)

theorem startTask_still (job : Job) (label : String) (period : Duration) :
    s.Still (s.startTask job label period) := by
  refine ⟨⟨⟨rfl, rfl⟩, Nat.le_refl _, _, rfl, fun task htask => ?_⟩, rfl⟩
  rw [List.mem_singleton.mp htask]
  exact Nat.lt_of_lt_of_le Nat.one_pos (Nat.le_max_left _ _)

theorem concluded_still (ended : Except Error (Registry × List Event × Degradation ComponentStatus)) :
    s.Still (s.concluded ended).1 := by
  cases ended <;> exact .of_same ⟨rfl, rfl⟩ rfl rfl rfl

variable {s}

/-- A command that has no happenings of its own, does not end the loops and hands no sample to the governor. -/
theorem perform_still {command : Command} (hrequest : command.request? = none) (hreports : command.reports = false)
    (hsleep : ∀ ms, command ≠ .sleep ms) (hshutdown : command ≠ .shutdown) (hsamples : command.samples = false) :
    s.Still (s.perform command).1 := by
  cases command with
  | register name priority restart =>
    obtain ⟨s', hs', hperform⟩ := s.perform_register name priority restart
    have hhook : s.Still s' := by
      rcases hs' with rfl | ⟨script, rfl⟩
      · exact .refl _
      · exact .of_same ⟨rfl, rfl⟩ rfl rfl rfl
    rcases hperform with hsame | ⟨registry, events, -, hdone⟩
    · rw [hsame]
      exact hhook
    · rw [hdone]
      exact hhook.trans (.of_same ⟨rfl, rfl⟩ rfl rfl rfl)
  | reset name => unfold perform; dsimp only; split <;> exact .of_same ⟨rfl, rfl⟩ rfl rfl rfl
  | status name => unfold perform; dsimp only; split <;> exact .refl s
  | setThresholds kind thresholds => unfold perform; dsimp only; split <;> exact .of_same ⟨rfl, rfl⟩ rfl rfl rfl
  | startMonitor script => exact s.startTask_still _ _ _
  | startValidator script => exact s.startTask_still _ _ _
  | sleep ms => exact absurd rfl (hsleep ms)
  | shutdown => exact absurd rfl hshutdown
  | handle kind usage => exact absurd hsamples (by simp [Command.samples])
  | poll sampling => exact absurd hsamples (by simp [Command.samples])
  | run request => exact absurd hrequest (by simp [Command.request?])
  | report name error isCritical => exact absurd hreports (by simp [Command.reports])
  | runFor component request => exact absurd hreports (by simp [Command.reports])
  | _ => exact .of_same ⟨rfl, rfl⟩ rfl rfl rfl

/-- Samples keep the loops and the clock. -/
theorem perform_calm_of_samples {command : Command} (h : command.samples = true) : s.Calm (s.perform command).1 := by
  cases command with
  | handle kind usage =>
    have hcore := throughHooks_sameCore.handleSample s kind usage
    have hsetup := throughHooks_sameSetup.handleSample s kind usage
    exact .of_same ⟨hsetup.settings, hsetup.clock⟩ hcore.now hcore.tasks
  | poll sampling =>
    let added := (s.addHook "sample" []).1
    let called := (added.callHook s.hooks.length).1
    have hadded : s.SameCore added := ⟨rfl, rfl, rfl, rfl⟩
    have hcalled := hadded.trans (throughHooks_sameCore.callHook added s.hooks.length)
    have hcore := hcalled.trans (throughHooks_sameCore.handleSampling called sampling)
    have hset := throughHooks_sameSetup.callHook added s.hooks.length
    have hsetup := hset.trans (throughHooks_sameSetup.handleSampling called sampling)
    exact .of_same ⟨hsetup.settings, hsetup.clock⟩ hcore.now hcore.tasks
  | _ => exact absurd h (by simp [Command.samples])

/-! ## One happening after the other -/

/-- Something comes at a moment: it falls due, and if it is a loop, the loop still runs. -/
structure Comes (s : Session) (moment : Nat) (what : Due) : Prop where
  falls : s.FallsDue moment what
  alive : ∀ i task, what = .task i → s.tasks[i]? = some task → task.alive = true

/-- From `s` to `s'` things happen in order, and between them all is calm and goes along with a relation. -/
inductive Leads (R : Session → Session → Prop) : Session → List Happening → Session → Prop
  | calm {s s' : Session} (h : s.Calm s') (hrel : R s s') : Leads R s [] s'
  | happens {s : Session} {moment : Nat} {what : Due} (h : s.Comes moment what) :
    Leads R s [⟨moment, what, s⟩] (s.happen moment what)
  | trans {s s' s'' : Session} {first rest : List Happening} (h : Leads R s first s') (h' : Leads R s' rest s'') :
    Leads R s (first ++ rest) s''

/-- The same, and nothing has happened later than the clock shows. -/
structure Elapses (R : Session → Session → Prop) (s : Session) (happenings : List Happening) (s' : Session) :
    Prop where
  leads : s.Leads R happenings s'
  moments : ∀ h ∈ happenings, h.moment ≤ s'.now

section Leads

variable {R : Session → Session → Prop} {s s' s'' : Session} {happenings more : List Happening} {time : Nat}

/-- Between two happenings of a list lies nothing but what happens in between. -/
theorem Leads.split (hrefl : ∀ s, R s s) (h : s.Leads R happenings s') :
    ∀ {first : List Happening} {this : Happening} {rest : List Happening}, happenings = first ++ this :: rest →
      s.Leads R first this.before ∧ this.after.Leads R rest s' := by
  induction h with
  | calm => exact fun heq => absurd heq (by simp)
  | @happens s moment what h =>
    intro first this rest heq
    obtain ⟨rfl, hthis, rfl⟩ : first = [] ∧ ⟨moment, what, s⟩ = this ∧ rest = [] := by
      cases first with
      | nil => simpa [eq_comm] using heq
      | cons => simp at heq
    subst hthis
    exact ⟨.calm (.refl _) (hrefl _), .calm (.refl _) (hrefl _)⟩
  | @trans s s' s'' before later h h' ih ih' =>
    intro first this rest heq
    rcases List.append_eq_append_iff.mp heq with ⟨mid, rfl, hlater⟩ | ⟨mid, hbefore, hrest⟩
    · obtain ⟨hmid, hafter⟩ := ih' hlater
      exact ⟨h.trans hmid, hafter⟩
    · cases mid with
      | nil =>
        rw [List.append_nil] at hbefore
        obtain ⟨hmid, hafter⟩ := ih' (show _ = [] ++ this :: rest from hrest.symm)
        subst hbefore
        have hfirst := h.trans hmid
        rw [List.append_nil] at hfirst
        exact ⟨hfirst, hafter⟩
      | cons that mid =>
        obtain ⟨rfl, rfl⟩ := List.cons.inj hrest
        obtain ⟨hfirst, hafter⟩ := ih hbefore
        exact ⟨hfirst, hafter.trans h'⟩

theorem happen_setup (s : Session) (moment : Nat) (what : Due) : s.SameSetup (s.happen moment what) := by
  cases what with
  | cooldown => exact ⟨rfl, rfl⟩
  | task i =>
    obtain ⟨done, hdone, tasks, hrun⟩ := throughHooks_sameSetup.runTask s i
    show s.SameSetup (s.runTask i)
    rw [hrun]
    exact ⟨hdone.settings, hdone.clock⟩

theorem happen_now (s : Session) (moment : Nat) (what : Due) : (s.happen moment what).now = s.now := by
  cases what with
  | cooldown => rfl
  | task i =>
    obtain ⟨done, hdone, tasks, hrun⟩ := throughHooks_sameCore.runTask s i
    show (s.runTask i).now = _
    rw [hrun]
    exact hdone.now

theorem Leads.now (h : s.Leads R happenings s') : s.now ≤ s'.now := by
  induction h with
  | calm h => exact h.now
  | @happens s moment what _ => exact Nat.le_of_eq (s.happen_now moment what).symm
  | trans _ _ ih ih' => exact Nat.le_trans ih ih'

theorem Leads.setup (h : s.Leads R happenings s') : s.SameSetup s' := by
  induction h with
  | calm h => exact h.toSameSetup
  | @happens s moment what _ => exact s.happen_setup moment what
  | trans _ _ ih ih' => exact ih.trans ih'

theorem Leads.ticking (h : s.Leads R happenings s') (hticks : s.Ticking) : s'.Ticking := by
  induction h with
  | calm h =>
    obtain ⟨started, htasks, hperiods⟩ := h.tasks
    intro task htask
    rw [htasks] at htask
    rcases List.mem_append.mp htask with htask | htask
    · exact hticks task htask
    · exact hperiods task htask
  | happens h => exact hticks.happen h.falls
  | trans _ _ ih ih' => exact ih' (ih hticks)

theorem Leads.calm_right (h : s.Leads R happenings s') (h' : s'.Calm s'') (hrel : R s' s'') :
    s.Leads R happenings s'' := by
  have hboth := h.trans (.calm h' hrel)
  rwa [List.append_nil] at hboth

theorem Leads.mono {R' : Session → Session → Prop} (hle : ∀ s s', R s s' → R' s s')
    (h : s.Leads R happenings s') : s.Leads R' happenings s' := by
  induction h with
  | calm h hrel => exact .calm h (hle _ _ hrel)
  | happens h => exact .happens h
  | trans _ _ ih ih' => exact ih.trans ih'

theorem Elapses.trans (h : s.Elapses R happenings s') (h' : s'.Elapses R more s'') :
    s.Elapses R (happenings ++ more) s'' := by
  refine ⟨h.leads.trans h'.leads, fun this hthis => ?_⟩
  rcases List.mem_append.mp hthis with hthis | hthis
  · exact Nat.le_trans (h.moments this hthis) h'.leads.now
  · exact h'.moments this hthis

theorem Elapses.mono {R' : Session → Session → Prop} (hle : ∀ s s', R s s' → R' s s')
    (h : s.Elapses R happenings s') : s.Elapses R' happenings s' := ⟨h.leads.mono hle, h.moments⟩

theorem Elapses.calm (h : s.Calm s') (hrel : R s s') : s.Elapses R [] s' := ⟨.calm h hrel, List.forall_mem_nil _⟩

theorem Still.elapses (h : s.Still s') : s.Elapses SameThrottle [] s' := .calm h.toCalm h.throttled

theorem Elapses.still (h : s.Elapses SameThrottle happenings s') (h' : s'.Still s'') :
    s.Elapses SameThrottle happenings s'' := by
  have hboth := h.trans h'.elapses
  rwa [List.append_nil] at hboth

theorem Still.then (h : s.Still s') (h' : s'.Elapses SameThrottle happenings s'') :
    s.Elapses SameThrottle happenings s'' := h.elapses.trans h'

end Leads

/-! ## Sleeps -/

theorem comes_of_nextDue {time moment : Nat} {what : Due} (h : s.nextDue time = some (moment, what)) :
    s.Comes moment what := by
  refine ⟨(fallsDue_of_nextDue h).2, fun i task hwhat htask => ?_⟩
  subst hwhat
  exact alive_of_nextDue h htask

theorem settleUpTo_leads (time bound : Nat) (s : Session) :
    s.Leads SameThrottle (settleUpToHappenings time bound s) (settleUpTo time bound s) ∧
      ∀ h ∈ settleUpToHappenings time bound s, h.moment ≤ time := by
  induction bound generalizing s with
  | zero => exact ⟨(Still.refl s).elapses.leads, List.forall_mem_nil _⟩
  | succ bound ih =>
    unfold settleUpToHappenings settleUpTo
    cases hnext : s.nextDue time with
    | none => exact ⟨(Still.refl s).elapses.leads, List.forall_mem_nil _⟩
    | some next =>
      obtain ⟨moment, what⟩ := next
      obtain ⟨hleads, hmoments⟩ := ih (s.happen moment what)
      refine ⟨(Leads.happens (comes_of_nextDue hnext)).trans hleads, ?_⟩
      rintro h (_ | ⟨_, hrest⟩)
      · exact (fallsDue_of_nextDue hnext).1
      · exact hmoments h hrest

variable (s)

/-- What is due now happens. -/
theorem settle_elapses : s.Elapses SameThrottle (s.settleHappenings s.now) (s.settle s.now) := by
  obtain ⟨hleads, hmoments⟩ := settleUpTo_leads s.now (s.dueBound s.now) s
  exact ⟨hleads, fun h hh => Nat.le_trans (hmoments h hh) hleads.now⟩

theorem sleepTo_elapses (time : Nat) : s.Elapses SameThrottle (s.sleepToHappenings time) (s.sleepTo time) := by
  unfold sleepToHappenings sleepTo
  split
  · next hlt =>
    obtain ⟨hleads, hmoments⟩ := settleUpTo_leads (time - 1) (s.dueBound (time - 1)) s
    have hnow : (s.settle (time - 1)).now ≤ time := by
      have hle := (s.settle_quiet (time - 1)).now_le
      omega
    have hclock := still_clock hnow
    exact ⟨hleads.calm_right hclock.toCalm hclock.throttled,
      fun h hh => Nat.le_trans (hmoments h hh) (Nat.sub_le time 1)⟩
  · exact (Still.refl s).elapses

theorem sleep_elapses (deadline : Option Nat) (ms : Nat) :
    s.Elapses SameThrottle (s.sleepHappenings deadline ms) (s.sleep deadline ms).1 := by
  unfold sleepHappenings sleep
  cases deadline with
  | none => exact s.sleepTo_elapses _
  | some d =>
    dsimp only
    split
    · exact s.sleepTo_elapses _
    · exact s.sleepTo_elapses _

theorem sleepAmong_elapses (deadline : Option Nat) (ms : Nat) (others : List (Nat × SideEffect)) :
    s.Elapses SameThrottle (s.sleepAmongHappenings deadline ms others) (s.sleepAmong deadline ms others).1 := by
  induction others generalizing s ms with
  | nil => exact s.sleep_elapses deadline ms
  | cons act rest ih =>
    obtain ⟨gap, effect⟩ := act
    have hgap := s.sleep_elapses deadline gap
    unfold sleepAmongHappenings sleepAmong
    dsimp only
    split
    · exact s.sleep_elapses deadline _
    · rcases hsleep : s.sleep deadline gap with ⟨woken, _ | _⟩
      · rw [hsleep] at hgap
        rw [List.append_nil]
        exact hgap
      · rw [hsleep] at hgap
        exact hgap.trans ((woken.sideEffect_still effect).then (ih _ _))

/-! ## Runs and reports -/

variable {s}

theorem Answers.elapses {deadline : Option Nat} {run : Run} {script : CallScript} {a : Attempt}
    (h : Answers deadline s run script a) :
    s.Elapses SameThrottle (s.sleepAmongHappenings deadline script.next.1.takes script.next.1.during) a.answered := by
  obtain ⟨woken, hsleep, hanswered⟩ := h.answered
  rw [h.step] at hsleep
  have hslept := s.sleepAmong_elapses deadline script.next.1.takes script.next.1.during
  rw [hsleep] at hslept
  rw [hanswered]
  exact hslept.still (woken.sideEffects_still a.step.side)

theorem Attempt.observed_still (a : Attempt) (failure : Failure) : a.answered.Still (a.observed failure) :=
  .of_same ⟨rfl, rfl⟩ rfl rfl rfl

theorem Attempt.givenUp_still (a : Attempt) (failure : Failure) : a.answered.Still (a.givenUp failure) :=
  .of_same ⟨rfl, rfl⟩ rfl rfl rfl

theorem Attempt.succeeded_still (a : Attempt) : a.answered.Still a.succeeded := .of_same ⟨rfl, rfl⟩ rfl rfl rfl

theorem runCallsHappenings_answered {deadline : Option Nat} {limit : Nat} {run : Run} {script : CallScript}
    {a : Attempt} (h : Answers deadline s run script a) :
    runCallsHappenings deadline limit s run script =
      s.sleepAmongHappenings deadline script.next.1.takes script.next.1.during ++
        match a.step.result with
        | .ok _ => []
        | .error failure =>
          if a.goesOn limit failure then
            (a.observed failure).sleepAmongHappenings deadline (a.action failure).delay.millisUp a.step.between ++
              match (a.observed failure).sleepAmong deadline (a.action failure).delay.millisUp a.step.between with
              | (_, false) => []
              | (next, true) =>
                runCallsHappenings deadline limit next (Executor.advance run (a.action failure)) script.next.2
          else [] := by
  obtain ⟨begun, run', step, answered⟩ := a
  obtain ⟨rfl, rfl, rfl, woken, hsleep, hanswered⟩ := h
  dsimp only at hsleep hanswered
  subst hanswered
  rw [runCallsHappenings, hsleep]
  rfl

theorem Unfolds.elapses {deadline : Option Nat} {limit : Nat} {s s' : Session} {run : Run} {script : CallScript}
    {attempts : List Attempt} {calls : List Call} {outcome : RunOutcome}
    (h : Unfolds deadline limit s run script attempts s' calls outcome) :
    s.Elapses SameThrottle (runCallsHappenings deadline limit s run script) s' := by
  induction h with
  | @dropped s run script s' hsleep =>
    have hslept := s.sleepAmong_elapses deadline script.next.1.takes script.next.1.during
    rw [hsleep] at hslept
    rw [runCallsHappenings, hsleep, List.append_nil]
    exact hslept
  | @succeeded s run script a value hanswers hresult =>
    rw [runCallsHappenings_answered hanswers, hresult, List.append_nil]
    exact hanswers.elapses.still a.succeeded_still
  | @gaveUp s run script a failure hanswers hresult hends =>
    rw [runCallsHappenings_answered hanswers, hresult]
    dsimp only
    rw [if_neg hends, List.append_nil]
    exact hanswers.elapses.still (a.givenUp_still failure)
  | @droppedWaiting s run script a failure s' hanswers hresult hgoes hsleep =>
    have hslept := (a.observed failure).sleepAmong_elapses deadline (a.action failure).delay.millisUp a.step.between
    rw [hsleep] at hslept
    rw [runCallsHappenings_answered hanswers, hresult]
    dsimp only
    rw [if_pos hgoes, hsleep, List.append_nil]
    exact hanswers.elapses.trans ((a.observed_still failure).then hslept)
  | @retried s run script a failure s' rest s'' calls outcome hanswers hresult hgoes hsleep hrest ih =>
    have hslept := (a.observed failure).sleepAmong_elapses deadline (a.action failure).delay.millisUp a.step.between
    rw [hsleep] at hslept
    rw [runCallsHappenings_answered hanswers, hresult]
    dsimp only
    rw [if_pos hgoes, hsleep]
    exact hanswers.elapses.trans (((a.observed_still failure).then hslept).trans ih)

variable (s)

theorem run_elapses (deadline : Option Nat) (request : RunRequest) :
    s.Elapses SameThrottle (s.runHappenings deadline request) (s.run deadline request).1 := by
  cases hactive : s.executor.breaker.active with
  | true =>
    unfold runHappenings Session.run Executor.begin?
    rw [if_pos hactive]
    exact (Still.refl s).elapses
  | false =>
    have hbegin : s.executor.begin? request.operation request.params =
        some ⟨request.operation, request.params, 0⟩ := by
      unfold Executor.begin?
      rw [if_neg (by simp [hactive])]
    have helapses := (run_unfolds hactive deadline request).elapses
    unfold runHappenings
    rw [hbegin]
    exact helapses

theorem report_elapses (deadline : Option Nat) (name error : String) (isCritical : Bool) :
    s.Elapses SameThrottle (s.reportHappenings deadline name error isCritical)
      (s.report deadline name error isCritical).1 := by
  rw [report_eq]
  unfold reportHappenings
  cases hbegin : s.registry.beginReport name error isCritical with
  | error e => exact (Still.refl s).elapses
  | ok begun =>
    obtain ⟨registry, reported⟩ := begun
    have hbegun : s.Still { s with registry } := .of_same ⟨rfl, rfl⟩ rfl rfl rfl
    cases reported with
    | settled outcome => exact (hbegun.trans (concluded_still _ _)).elapses
    | restarting handler =>
      cases handler with
      | none => exact (hbegun.trans (concluded_still _ _)).elapses
      | some hook =>
        have hcalled := hbegun.trans (callHook_still { s with registry } hook)
        dsimp only
        generalize callHook { s with registry } hook = called at hcalled ⊢
        obtain ⟨called, step⟩ := called
        have hslept := hcalled.then (called.sleep_elapses deadline step.takes)
        dsimp only
        rcases hsleep : called.sleep deadline step.takes with ⟨woken, _ | _⟩
        · rw [hsleep] at hslept
          exact hslept
        · rw [hsleep] at hslept
          dsimp only
          split
          · exact hslept.still (concluded_still _ _)
          · exact hslept.still (concluded_still _ _)
          · exact hslept.still (.of_same ⟨rfl, rfl⟩ rfl rfl rfl)

theorem runFor_elapses (deadline : Option Nat) (component : String) (request : RunRequest) :
    s.Elapses SameThrottle (s.runForHappenings deadline component request) (s.runFor deadline component request).1 := by
  have hrun := s.run_elapses deadline request
  unfold runForHappenings runFor
  generalize s.run deadline request = ended at hrun ⊢
  obtain ⟨ended, calls, outcome⟩ := ended
  have hother : s.Elapses SameThrottle (s.runHappenings deadline request ++ []) ended := by
    rw [List.append_nil]
    exact hrun
  cases outcome with
  | value result => exact hother
  | cancelled => exact hother
  | stopped stop =>
    cases stop with
    | circuitOpen operation => exact hother
    | failed operation failure attempts action =>
      have hreport := hrun.trans (ended.report_elapses deadline component failure.message
        (action.stopTrading || action.escalate))
      dsimp only
      split <;> (next hended => rw [hended] at hreport; exact hreport)

/-! ## Commands -/

/-- A command that does not end the loops and hands no sample to the governor leads through what happens. -/
theorem perform_elapses {command : Command} (hshutdown : command ≠ .shutdown) (hsamples : command.samples = false) :
    s.Elapses SameThrottle (s.performHappenings command) (s.perform command).1 := by
  cases command with
  | report name error isCritical =>
    rw [s.perform_report]
    exact s.report_elapses none name error isCritical
  | run request => exact s.run_elapses (request.deadline s.now) request
  | runFor component request => exact s.runFor_elapses (request.deadline s.now) component request
  | sleep ms => exact s.sleep_elapses none ms
  | _ => exact (perform_still rfl rfl (by simp) hshutdown hsamples).elapses

/-- Whatever a command is, the loops go on as they do, unless it ends them. -/
theorem perform_elapses_loops {command : Command} (hshutdown : command ≠ .shutdown) :
    s.Elapses (fun _ _ => True) (s.performHappenings command) (s.perform command).1 := by
  cases hsamples : command.samples with
  | false => exact (s.perform_elapses hshutdown hsamples).mono fun _ _ _ => trivial
  | true =>
    have hnone : s.performHappenings command = [] := by
      cases command <;> first | rfl | exact absurd hsamples (by simp [Command.samples])
    rw [hnone]
    exact .calm (perform_calm_of_samples hsamples) trivial

theorem forget_still : s.Still s.forget := .of_same ⟨rfl, rfl⟩ rfl rfl rfl

/-- What is due after a command happens before the next. -/
theorem settled_elapses (command : Command) :
    (s.perform command).1.Elapses (fun _ _ => True)
      ((s.perform command).1.settleHappenings (s.perform command).1.now) (s.step command).1 :=
  ((s.perform command).1.settle_elapses.still (forget_still _)).mono fun _ _ _ => trivial

theorem step_elapses {command : Command} (hshutdown : command ≠ .shutdown) :
    s.Elapses (fun _ _ => True) (s.stepHappenings command) (s.step command).1 :=
  (s.perform_elapses_loops hshutdown).trans (s.settled_elapses command)

/-- From command to command things happen in order, until the loops are ended. -/
theorem happenings_elapses {commands : List Command} (hshutdown : Command.shutdown ∉ commands) :
    s.Elapses (fun _ _ => True) (s.happenings commands) (s.after commands) := by
  induction commands generalizing s with
  | nil => exact .calm (.refl s) trivial
  | cons command rest ih =>
    obtain ⟨hthis, hrest⟩ : command ≠ .shutdown ∧ Command.shutdown ∉ rest := by
      simpa [eq_comm] using hshutdown
    exact (s.step_elapses hthis).trans (ih _ hrest)

variable {s}

theorem perform_setup (command : Command) : s.SameSetup (s.perform command).1 := by
  by_cases hshutdown : command = .shutdown
  · rw [hshutdown]
    exact ⟨rfl, rfl⟩
  · exact (s.perform_elapses_loops hshutdown).leads.setup

theorem Ticking.perform (h : s.Ticking) (command : Command) : (s.perform command).1.Ticking := by
  by_cases hshutdown : command = .shutdown
  · rw [hshutdown]
    exact List.forall_mem_nil _
  · exact (s.perform_elapses_loops hshutdown).leads.ticking h

/-- Nobody changes the settings or the clock, and no loop ever stands still. -/
theorem after_setup (commands : List Command) : s.SameSetup (s.after commands) := by
  induction commands generalizing s with
  | nil => exact ⟨rfl, rfl⟩
  | cons command rest ih =>
    have hsettled := (s.perform command).1.settle_elapses.leads.setup
    have hstepped : s.SameSetup (s.step command).1 := (perform_setup command).trans ⟨hsettled.settings, hsettled.clock⟩
    exact hstepped.trans ih

theorem Ticking.after (h : s.Ticking) (commands : List Command) : (s.after commands).Ticking := by
  induction commands generalizing s with
  | nil => exact h
  | cons command rest ih =>
    exact ih (s := (s.step command).1) ((s.perform command).1.settle_elapses.leads.ticking (h.perform command))

/-- When a command is over, a loop that still runs is due later. -/
theorem lt_due_step (h : s.Ticking) {command : Command} {i : Nat} {task : Task}
    (htask : (s.step command).1.tasks[i]? = some task) (halive : task.alive = true) :
    (s.step command).1.now < task.due := by
  have hnone : (s.step command).1.nextDue (s.perform command).1.now = none :=
    nextDue_settleUpTo _ (h.perform command) (Nat.le_refl _)
  have hnow : (s.step command).1.now = (s.perform command).1.now := played_now
  rw [hnow]
  exact lt_due_of_nextDue hnone htask halive

theorem lt_due_after (h : s.Ticking) {commands : List Command} (hcommands : commands ≠ []) {i : Nat} {task : Task}
    (htask : (s.after commands).tasks[i]? = some task) (halive : task.alive = true) :
    (s.after commands).now < task.due := by
  obtain ⟨before, last, rfl⟩ := List.eq_nil_or_concat commands |>.resolve_left hcommands
  rw [List.concat_eq_append, after_append] at htask ⊢
  exact lt_due_step (h.after before) htask halive

end Session

end Failsafe
