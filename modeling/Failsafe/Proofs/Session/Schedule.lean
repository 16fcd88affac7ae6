import Failsafe.Proofs.Session.Happenings
import Failsafe.Proofs.Session.Opening

/-!
# The schedule of the loops

A monitor or a validator has its first turn as soon as it is started, and every later one when a sleep of a period is
over since the turn before: `Clock.tick` counts these moments. How the time in between is cut into sleeps, runs and
other commands makes no difference, and neither do the other loops: from any list of happenings `turnsOf` picks the
turns of one loop, and `Turns` says how the loop looks before each of them and after them all (`Leads.turns`). That no
turn is left out comes from the end of a command, when no loop is due any more (`lt_due_after`); that none comes early,
from the moments of happenings, none of which is later than the clock shows.
-/

namespace Failsafe

/-! ## A loop after some turns -/

/-- What is left of the script of a job after a number of turns. -/
def Job.drop (n : Nat) : Job → Job
  | .monitor script => .monitor (script.drop n)
  | .validator script => .validator (script.drop n)

theorem Job.drop_drop (job : Job) (m n : Nat) : (job.drop m).drop n = job.drop (m + n) := by
  cases job <;> simp [drop, List.drop_drop]

/-- A loop after a number of turns on a clock, if it runs on. -/
def Task.later (task : Task) (clock : Clock) (n : Nat) : Task :=
  { task with job := task.job.drop n, due := clock.tick task.due task.period n }

theorem Task.later_zero (task : Task) (clock : Clock) : task.later clock 0 = task := by
  obtain ⟨job, hook, due, period, alive⟩ := task
  cases job <;> rfl

theorem Task.later_later (task : Task) (clock : Clock) (m n : Nat) :
    (task.later clock m).later clock n = task.later clock (m + n) := by
  unfold later
  dsimp only
  rw [Job.drop_drop, Clock.tick_tick]

namespace Session

/-- Hands on what the hook of a loop answers by its script; tells whether another hook panicked in it. -/
def handOn (s : Session) : Job → Session × Bool
  | .monitor script =>
    let (s, _, panicked) := s.handleSampling (script.head?.getD (.readings []))
    (s, panicked)
  | .validator script => (s.handleFinding (script.head?.getD (.consistent true)), false)

/-- What a loop does in its turn, before it is put down for the next one, and whether a hook panicked in it: the hook
of the loop is called, and what it answers is handed on. -/
def turn (s : Session) (hook : Nat) (job : Job) : Session × Bool := (s.callHook hook).1.handOn job

/-- A loop has a turn in which a hook panics. -/
def Happening.breaksOff (h : Happening) : Bool :=
  match h.what with
  | .cooldown => false
  | .task i => (h.before.tasks[i]?).any fun task => (h.before.turn task.hook task.job).2

theorem handOn_sameCore (s : Session) (job : Job) : s.SameCore (s.handOn job).1 := by
  cases job with
  | monitor script => exact throughHooks_sameCore.handleSampling s _
  | validator script => exact throughHooks_sameCore.handleFinding s _

theorem turn_sameCore (s : Session) (hook : Nat) (job : Job) : s.SameCore (s.turn hook job).1 :=
  (throughHooks_sameCore.callHook s hook).trans (handOn_sameCore _ job)

variable {s : Session} {clock : Clock} {i : Nat} {task : Task}

theorem runTask_of_alive (h : s.tasks[i]? = some task) (halive : task.alive = true) :
    s.runTask i =
      { (s.turn task.hook task.job).1 with
        tasks := s.tasks.set i { task.later s.clock 1 with alive := !(s.turn task.hook task.job).2 } } := by
  obtain ⟨job, hook, due, period, alive⟩ := task
  obtain rfl : alive = true := halive
  have htasks := (s.turn_sameCore hook job).tasks
  unfold runTask
  rw [h]
  cases job with
  | monitor script =>
    dsimp only [turn, handOn] at htasks ⊢
    rw [htasks]
    simp only [Task.later, Job.drop, List.drop_one, Clock.tick]
  | validator script =>
    dsimp only [turn, handOn] at htasks ⊢
    rw [htasks]
    simp only [Task.later, Job.drop, List.drop_one, Clock.tick, Bool.not_false]

/-! ## The turns of a loop -/

/-- The turns of one loop among all that happens. -/
def turnsOf (i : Nat) (happenings : List Happening) : List Happening := happenings.filter (·.what = .task i)

theorem turnsOf_append (i : Nat) (first rest : List Happening) :
    turnsOf i (first ++ rest) = turnsOf i first ++ turnsOf i rest := List.filter_append ..

/-- A loop has turns on a clock, one after the other, and this is what becomes of it. -/
inductive Turns (clock : Clock) (i : Nat) : Task → List Happening → Task → Prop
  | none (task : Task) : Turns clock i task [] task
  | next {task task' : Task} {before : Session} {rest : List Happening} (hclock : before.clock = clock)
    (halive : task.alive = true) (htask : before.tasks[i]? = some task)
    (hrest : Turns clock i { task.later clock 1 with alive := !(before.turn task.hook task.job).2 } rest task') :
    Turns clock i task (⟨task.due, .task i, before⟩ :: rest) task'

theorem Turns.trans {task task' task'' : Task} {first rest : List Happening} (h : Turns clock i task first task')
    (h' : Turns clock i task' rest task'') : Turns clock i task (first ++ rest) task'' := by
  induction h with
  | none task => exact h'
  | next hclock halive htask _ ih => exact .next hclock halive htask (ih h')

/-- Whatever happens, a loop that is there has its turns. -/
theorem Leads.turns {R : Session → Session → Prop} {s' : Session} {happenings : List Happening}
    (h : s.Leads R happenings s') (htask : s.tasks[i]? = some task) :
    ∃ task', s'.tasks[i]? = some task' ∧ Turns s.clock i task (turnsOf i happenings) task' := by
  induction h generalizing task with
  | calm h =>
    obtain ⟨started, htasks, -⟩ := h.tasks
    refine ⟨task, ?_, .none task⟩
    rw [htasks]
    exact (List.getElem?_append_left (List.getElem?_eq_some_iff.mp htask).1).trans htask
  | trans h _ ih ih' =>
    obtain ⟨task', htask', hturns⟩ := ih htask
    obtain ⟨task'', htask'', hturns'⟩ := ih' htask'
    rw [h.setup.clock] at hturns'
    rw [turnsOf_append]
    exact ⟨task'', htask'', hturns.trans hturns'⟩
  | @happens s moment what h =>
    cases what with
    | cooldown => exact ⟨task, htask, .none task⟩
    | task j =>
      obtain ⟨other, hother, hdue⟩ := h.falls
      by_cases hij : j = i
      · subst hij
        obtain rfl := Option.some.inj (hother.symm.trans htask)
        have halive := h.alive j other rfl hother
        have hlt := (List.getElem?_eq_some_iff.mp hother).1
        refine ⟨{ other.later s.clock 1 with alive := !(s.turn other.hook other.job).2 }, ?_, ?_⟩
        · show (s.runTask j).tasks[j]? = _
          rw [runTask_of_alive hother halive]
          exact List.getElem?_set_self hlt
        · rw [← hdue]
          simpa [turnsOf] using Turns.next rfl halive hother (.none _)
      · refine ⟨task, ?_, ?_⟩
        · show (s.runTask j).tasks[i]? = _
          obtain ⟨job, alive, hset⟩ := runTask_tasks hother
          rw [hset, List.getElem?_set_ne hij]
          exact htask
        · have hnone : Turns s.clock i task [] task := .none task
          simpa [turnsOf, hij] using hnone

/-- Before each of its turns a loop runs, and looks as it has to after the turns before. -/
theorem Turns.before {task' : Task} {turns : List Happening} (h : Turns clock i task turns task') :
    ∀ {k : Nat} {this : Happening}, turns[k]? = some this → this.moment = clock.tick task.due task.period k ∧
      this.what = .task i ∧ this.before.tasks[i]? = some (task.later clock k) ∧ task.alive = true := by
  induction h with
  | none task => exact fun hthis => absurd hthis (by simp)
  | @next task task' before rest hclock halive htask hrest ih =>
    intro k this hthis
    cases k with
    | zero =>
      obtain rfl : ⟨task.due, .task i, before⟩ = this := by simpa using hthis
      exact ⟨rfl, rfl, by rw [Task.later_zero]; exact htask, halive⟩
    | succ k =>
      obtain ⟨hmoment, hwhat, hbefore, hon⟩ := ih (k := k) (by simpa using hthis)
      dsimp only at hon
      refine ⟨?_, hwhat, ?_, halive⟩
      · rw [hmoment, Nat.add_comm]
        exact Clock.tick_tick 1 k
      · have hlater :
            { task.later clock 1 with alive := !(before.turn task.hook task.job).2 } = task.later clock 1 := by
          rw [hon, ← halive]
          rfl
        rw [hbefore, hlater, Task.later_later, Nat.add_comm]

theorem Turns.due {task' : Task} {turns : List Happening} (h : Turns clock i task turns task') :
    task'.due = clock.tick task.due task.period turns.length := by
  induction h with
  | none task => rfl
  | next _ _ _ _ ih =>
    rw [ih, List.length_cons, Nat.add_comm]
    exact Clock.tick_tick 1 _

/-- In each of its turns a loop does what its script says. -/
theorem Turns.does {task' : Task} {turns : List Happening} (h : Turns clock i task turns task') {k : Nat}
    {this : Happening} (hthis : turns[k]? = some this) :
    this.breaksOff = (this.before.turn task.hook (task.job.drop k)).2 ∧
      ∃ tasks, this.after = { (this.before.turn task.hook (task.job.drop k)).1 with tasks } := by
  obtain ⟨-, hwhat, hbefore, halive⟩ := h.before hthis
  have hafter : this.after = this.before.runTask i := by
    unfold Happening.after
    rw [hwhat]
    rfl
  refine ⟨?_, _, hafter.trans (runTask_of_alive hbefore halive)⟩
  unfold Happening.breaksOff
  rw [hwhat]
  dsimp only
  rw [hbefore]
  rfl

/-- If none of its turns comes too early and the next one would come too late, a loop has had a turn at each moment
that it comes back. -/
theorem Turns.lt_length_iff {task' : Task} {turns : List Happening} (h : Turns clock i task turns task')
    (hperiod : 0 < task.period) {time : Nat} (hearly : ∀ this ∈ turns, this.moment ≤ time)
    (hlate : time < task'.due) (k : Nat) : k < turns.length ↔ clock.tick task.due task.period k ≤ time := by
  constructor
  · intro hk
    have hthis : turns[k]? = some turns[k] := List.getElem?_eq_getElem hk
    rw [← (h.before hthis).1]
    exact hearly _ (List.mem_of_getElem? hthis)
  · intro hle
    rw [h.due] at hlate
    exact (Clock.tick_strictMono hperiod).lt_iff_lt.mp (Nat.lt_of_le_of_lt hle hlate)

/-- A turn in which a hook panics is the last one. -/
theorem Turns.last {task' : Task} {turns : List Happening} (h : Turns clock i task turns task') :
    ∀ {k : Nat} {this : Happening}, turns[k]? = some this → this.breaksOff = true → turns.length = k + 1 := by
  induction h with
  | none task => exact fun hthis => absurd hthis (by simp)
  | @next task task' before rest hclock halive htask hrest ih =>
    intro k this hthis hbreaks
    cases k with
    | zero =>
      obtain rfl : ⟨task.due, .task i, before⟩ = this := by simpa using hthis
      have hpanicked : (before.turn task.hook task.job).2 = true := by
        simpa [Happening.breaksOff, htask] using hbreaks
      cases hrest with
      | none => rfl
      | next _ hon => exact absurd hon (by simp [hpanicked])
    | succ k => rw [List.length_cons, ih (k := k) (by simpa using hthis) hbreaks]

/-- A loop in whose turns no hook panics runs on. -/
theorem Turns.alive {task' : Task} {turns : List Happening} (h : Turns clock i task turns task')
    (halive : task.alive = true) (hgoes : ∀ this ∈ turns, this.breaksOff = false) : task'.alive = true := by
  induction h with
  | none task => exact halive
  | @next task task' before rest _ _ htask hrest ih =>
    have hfirst : (before.turn task.hook task.job).2 = false := by
      have := hgoes _ List.mem_cons_self
      simpa [Happening.breaksOff, htask] using this
    exact ih (by rw [hfirst]; rfl) fun this hthis => hgoes this (List.mem_cons_of_mem _ hthis)

/-! ## The schedule -/

/-- Between two turns of a loop that follow one another the loop has no other turn. -/
theorem exists_between {happenings : List Happening} {k : Nat} {this next : Happening}
    (hthis : (turnsOf i happenings)[k]? = some this) (hnext : (turnsOf i happenings)[k + 1]? = some next) :
    ∃ first between rest, happenings = first ++ this :: (between ++ next :: rest) ∧ turnsOf i between = [] := by
  obtain ⟨hk, hthis⟩ := List.getElem?_eq_some_iff.mp hthis
  obtain ⟨hk', hnext⟩ := List.getElem?_eq_some_iff.mp hnext
  have hturns : turnsOf i happenings =
      (turnsOf i happenings).take k ++ this :: next :: (turnsOf i happenings).drop (k + 2) := by
    rw [← hthis, ← hnext, List.getElem_cons_drop, List.getElem_cons_drop, List.take_append_drop]
  obtain ⟨first, later, hsplit, -, hlater⟩ := List.filter_eq_append_iff.mp hturns
  obtain ⟨beside, later', rfl, hbeside, -, hlater'⟩ := List.filter_eq_cons_iff.mp hlater
  obtain ⟨between, rest, rfl, hbetween, -, -⟩ := List.filter_eq_cons_iff.mp hlater'
  refine ⟨first ++ beside, between, rest, ?_, List.filter_eq_nil_iff.mpr hbetween⟩
  rw [hsplit, List.append_assoc]

/-- The turns that a loop with a job has on a clock, from its start to a time. -/
structure Scheduled (clock : Clock) (i hook : Nat) (job : Job) (interval start time : Nat) (turns : List Happening) :
    Prop where
  /-- The first comes at the start, and every other when a sleep of an interval is over since the one before. -/
  moment : ∀ {k : Nat} {this : Happening}, turns[k]? = some this → this.moment = clock.tick start interval k
  early : ∀ this ∈ turns, this.moment ≤ time
  /-- In every turn the loop does all that its script says. -/
  does : ∀ {k : Nat} {this : Happening}, turns[k]? = some this →
    this.breaksOff = (this.before.turn hook (job.drop k)).2 ∧
      ∃ tasks, this.after = { (this.before.turn hook (job.drop k)).1 with tasks }
  /-- One turn is over before the next begins. -/
  order : ∀ {k : Nat} {this next : Happening}, turns[k]? = some this → turns[k + 1]? = some next →
    ∃ between, this.after.Leads (fun _ _ => True) between next.before ∧ turnsOf i between = []
  /-- A turn in which a hook panics is the last one. -/
  last : ∀ {k : Nat} {this : Happening}, turns[k]? = some this → this.breaksOff = true → turns.length = k + 1
  /-- If there is none, no turn is left out. -/
  complete : (∀ this ∈ turns, this.breaksOff = false) →
    ∀ k, k < turns.length ↔ clock.tick start interval k ≤ time

/-- If the clock can tell when another interval will be over, the turns come an interval apart, and their number tells
how many intervals have passed. -/
theorem Scheduled.regular {hook : Nat} {job : Job} {interval start time : Nat} {turns : List Happening}
    (h : Scheduled clock i hook job interval start time turns) (hinterval : 0 < interval) (hstart : start ≤ time)
    (hreaches : clock.Reaches time interval) :
    (∀ {k : Nat} {this : Happening}, turns[k]? = some this → this.moment = start + k * interval) ∧
      ((∀ this ∈ turns, this.breaksOff = false) → turns.length = (time - start) / interval + 1) := by
  refine ⟨fun {k this} hthis => ?_, fun hgoes => ?_⟩
  · have hearly := h.early this (List.mem_of_getElem? hthis)
    rw [h.moment hthis] at hearly ⊢
    exact Clock.tick_eq_of_le hreaches hearly
  · exact Clock.eq_of_lt_iff_tick_le hinterval hstart hreaches (h.complete hgoes)

/-- A loop that is started keeps to its schedule, whatever is asked for after it, until the loops are ended. -/
theorem scheduled_of_startTask (hticks : s.Ticking) {command : Command} {later : List Command} {job : Job}
    {label : String} {period : Duration} (hstart : (s.perform command).1 = s.startTask job label period)
    (hnone : s.performHappenings command = []) (hlater : Command.shutdown ∉ later) :
    s.now ≤ (s.after (command :: later)).now ∧
      Scheduled s.clock s.tasks.length s.hooks.length job (max 1 period.millisUp) s.now
        (s.after (command :: later)).now (turnsOf s.tasks.length (s.happenings (command :: later))) := by
  have helapses : (s.startTask job label period).Elapses (fun _ _ => True) (s.happenings (command :: later))
      (s.after (command :: later)) := by
    have hboth := (s.settled_elapses command).trans ((s.step command).1.happenings_elapses hlater)
    rw [← hstart]
    unfold happenings stepHappenings
    rw [hnone]
    exact hboth
  have hthere : (s.startTask job label period).tasks[s.tasks.length]? =
      some ⟨job, s.hooks.length, s.now, max 1 period.millisUp, true⟩ := List.getElem?_concat_length
  obtain ⟨task, htask, hturns⟩ := helapses.leads.turns hthere
  have hearly : ∀ this ∈ turnsOf s.tasks.length (s.happenings (command :: later)),
      this.moment ≤ (s.after (command :: later)).now :=
    fun this hthis => helapses.moments this (List.mem_filter.mp hthis).1
  refine ⟨helapses.leads.now, fun hthis => (hturns.before hthis).1, hearly, hturns.does, fun hthis hnext => ?_,
    hturns.last, fun hgoes => ?_⟩
  · obtain ⟨first, between, rest, hsplit, hbetween⟩ := exists_between hthis hnext
    exact ⟨between, ((helapses.leads.split (fun _ => trivial) hsplit).2.split (fun _ => trivial) rfl).1, hbetween⟩
  · have hperiod : 0 < max 1 period.millisUp := Nat.lt_of_lt_of_le Nat.one_pos (Nat.le_max_left _ _)
    have hlate := lt_due_after hticks (List.cons_ne_nil command later) htask (hturns.alive rfl hgoes)
    exact hturns.lt_length_iff hperiod hearly hlate

theorem millisUp_ofSecs {seconds : UInt64} (h : seconds ≠ 0) :
    0 < 1000 * seconds.toNat ∧ max 1 (Duration.ofSecs seconds).millisUp = 1000 * seconds.toNat := by
  have hpos : 0 < seconds.toNat := by
    rw [Nat.pos_iff_ne_zero]
    exact fun hzero => h (UInt64.toNat_inj.mp hzero)
  have hmillis : (Duration.ofSecs seconds).millisUp = 1000 * seconds.toNat := by
    simp only [Duration.millisUp, Duration.ofSecs, Duration.second]
    omega
  refine ⟨by omega, ?_⟩
  rw [hmillis, Nat.max_eq_right (by omega)]

/-- Settings under which a validator asks every fifty years. -/
def patient : Settings := { Settings.default with validation := ⟨1576800000⟩ }

end Session

end Failsafe
