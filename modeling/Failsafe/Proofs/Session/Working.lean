import Failsafe.Proofs.Session.Schedule

/-!
# Loops at work

In a session a loop has its turn all at once, which is all that can be seen as long as no hook takes time. A `Working`
session has the same loops, and each of them calls its hook, waits for the answer and hands it on, while time passes
and other loops get to work. Calling and handing on at once is a turn of the session (`call_handOn`).

A shutdown calls the breaker's timer off and sets a flag (`stop`). A loop that waits for no answer may then end, or have
another turn first, and the shutdown returns when all loops have ended (`shutdown?`). Nothing that loops do touches the
executor, but for timers of the breaker that wake (`act_executor`). `Session.shutdown` is the shutdown in
which no loop waits for an answer and all of them end at once (`shutdown?_leaves`).
-/

namespace Failsafe

/-- When a loop is due again that has its turn now. A turn that comes late puts off the next. -/
def Task.next (task : Task) (clock : Clock) (now : Nat) : Nat :=
  if task.due + 5 < now then clock.wake now task.period else clock.wake task.due task.period

/-- A loop that has ended. -/
def Task.ended (task : Task) : Task := { task with alive := false }

/-- A session whose loops are at work. -/
structure Working where
  session : Session
  /-- The loops that have called their hooks and wait for the answer, and when they are due again. -/
  busy : List (Nat × Nat)
  /-- Whether the loops have been told to end. -/
  stopped : Bool

/-- What happens while loops are at work. -/
inductive Act where
  /-- Time passes, and a timer of the breaker wakes that is due. -/
  | pass (ms : Nat)
  /-- A loop calls its hook. -/
  | call (index : Nat)
  /-- A loop hands on what its hook has answered. -/
  | handOn (index : Nat)
  /-- A loop ends that has been told to. -/
  | leave (index : Nat)
deriving DecidableEq, Repr

namespace Working

/-- All loops wait for their next turns. -/
def of (s : Session) : Working := ⟨s, [], false⟩

/-- Lets time pass. -/
def pass (w : Working) (ms : Nat) : Working :=
  let now := w.session.clock.wake w.session.now ms
  { w with session := { w.session with now }.happen now .cooldown }

/-- A loop calls its hook, if it has not ended and does not wait for the answer to another call. -/
def call (w : Working) (index : Nat) : Option Working := do
  let task ← w.session.tasks[index]?
  if task.alive = true ∧ w.busy.lookup index = none then
    some { w with
      session := (w.session.callHook task.hook).1
      busy := (index, task.next w.session.clock w.session.now) :: w.busy }
  else none

/-- A loop hands on the answer that it waits for. -/
def handOn (w : Working) (index : Nat) : Option Working := do
  let task ← w.session.tasks[index]?
  let due ← w.busy.lookup index
  let (s, panicked) := w.session.handOn task.job
  let again := { task with job := task.job.drop 1, due, alive := !panicked }
  some { w with
    session := { s with tasks := s.tasks.set index again }
    busy := w.busy.eraseP (·.1 == index) }

/-- A loop ends, if it has been told to and waits for no answer. -/
def leave (w : Working) (index : Nat) : Option Working :=
  if w.stopped = true ∧ w.busy.lookup index = none then
    some { w with session := { w.session with tasks := w.session.tasks.modify index Task.ended } }
  else none

/-- One thing happens, if it can. -/
def act (w : Working) : Act → Option Working
  | .pass ms => some (w.pass ms)
  | .call index => w.call index
  | .handOn index => w.handOn index
  | .leave index => w.leave index

/-- Things happen in order. -/
def play (w : Working) : List Act → Option Working
  | [] => some w
  | act :: rest => (w.act act).bind fun w => w.play rest

/-- A shutdown begins: the loops are told to end, and the breaker's timer is called off. -/
def stop (w : Working) : Working :=
  { w with
    session.executor.breaker := w.session.executor.breaker.shutdown
    stopped := true }

/-- A shutdown returns, once all loops have ended. -/
def join? (w : Working) : Option Session :=
  if ∀ task ∈ w.session.tasks, task.alive = false then some { w.session with tasks := [] } else none

/-- A shutdown in the course of which some things happen, with the session that it leaves. -/
def shutdown? (w : Working) (acts : List Act) : Option Session := (w.stop.play acts).bind join?

theorem session_of (s : Session) : (of s).session = s := rfl

theorem play_nil (w : Working) : w.play [] = some w := rfl

variable {w w' : Working} {i : Nat} {task : Task}

/-! ## Turns -/

/-- A loop that hands on the answer as soon as it has called its hook has had a turn of the session. -/
theorem call_handOn (htask : w.session.tasks[i]? = some task) (halive : task.alive = true)
    (hfree : w.busy.lookup i = none) (hontime : w.session.now ≤ task.due + 5) :
    (w.call i).bind (·.handOn i) = some { w with session := w.session.runTask i } := by
  have hnext : task.next w.session.clock w.session.now = w.session.clock.wake task.due task.period :=
    if_neg (Nat.not_lt.mpr hontime)
  have hcalled : (w.session.callHook task.hook).1.tasks = w.session.tasks :=
    (Session.throughHooks_sameCore.callHook w.session task.hook).tasks
  have hturn : (w.session.turn task.hook task.job).1.tasks = w.session.tasks :=
    (w.session.turn_sameCore task.hook task.job).tasks
  unfold Session.turn at hturn
  unfold call handOn
  simp only [htask, halive, hfree, hnext, hcalled, hturn, Option.bind_eq_bind, Option.bind_some, and_self, if_true,
    List.lookup_cons_self, List.eraseP_cons_of_pos, beq_self_eq_true]
  rw [Session.runTask_of_alive htask halive]
  rfl

/-! ## What loops at work leave alone -/

theorem call_executor (h : w.call i = some w') : w'.session.executor = w.session.executor := by
  unfold call at h
  obtain ⟨task, -, h⟩ := Option.bind_eq_some_iff.mp h
  split at h
  · obtain rfl := Option.some.inj h
    exact (Session.throughHooks_sameCore.callHook _ task.hook).executor
  · exact absurd h (by simp)

theorem handOn_executor (h : w.handOn i = some w') : w'.session.executor = w.session.executor := by
  unfold handOn at h
  obtain ⟨task, -, h⟩ := Option.bind_eq_some_iff.mp h
  obtain ⟨due, -, h⟩ := Option.bind_eq_some_iff.mp h
  obtain rfl := Option.some.inj h
  exact (Session.handOn_sameCore w.session task.job).executor

theorem leave_executor (h : w.leave i = some w') : w'.session.executor = w.session.executor := by
  unfold leave at h
  split at h
  · obtain rfl := Option.some.inj h
    rfl
  · exact absurd h (by simp)

/-- What loops do is nothing to the executor, but timers of the breaker may wake. -/
theorem act_executor {a : Act} (h : w.act a = some w') : w.session.executor.Aged w'.session.executor := by
  cases a with
  | pass ms =>
    obtain rfl := Option.some.inj h
    exact ⟨[_], rfl⟩
  | call i => exact .of_eq (call_executor h)
  | handOn i => exact .of_eq (handOn_executor h)
  | leave i => exact .of_eq (leave_executor h)

theorem play_executor {acts : List Act} (h : w.play acts = some w') : w.session.executor.Aged w'.session.executor := by
  induction acts generalizing w with
  | nil =>
    obtain rfl := Option.some.inj h
    exact .refl _
  | cons a rest ih =>
    obtain ⟨next, hact, hrest⟩ := Option.bind_eq_some_iff.mp h
    exact (act_executor hact).trans (ih hrest)

/-! ## Shutdowns -/

theorem of_join? {down : Session} (h : w.join? = some down) : down = { w.session with tasks := [] } := by
  unfold join? at h
  split at h
  · exact (Option.some.inj h).symm
  · exact absurd h (by simp)

/-- Loops that have been told to end and wait for no answer end one after the other. -/
theorem play_leaves (hstopped : w.stopped = true) (hfree : w.busy = []) (indices : List Nat) :
    w.play (indices.map .leave) =
      some { w with session.tasks := indices.foldl (fun tasks i => tasks.modify i Task.ended) w.session.tasks } := by
  induction indices generalizing w with
  | nil => rfl
  | cons i rest ih =>
    have hleave : w.leave i = some { w with session.tasks := w.session.tasks.modify i Task.ended } :=
      if_pos ⟨hstopped, by rw [hfree]; rfl⟩
    show (w.leave i).bind _ = _
    rw [hleave, Option.bind_some]
    exact ih hstopped hfree

theorem getElem?_foldl_ended (indices : List Nat) (tasks : List Task) (j : Nat) :
    (indices.foldl (fun tasks i => tasks.modify i Task.ended) tasks)[j]? =
      if j ∈ indices then (tasks[j]?).map Task.ended else tasks[j]? := by
  induction indices generalizing tasks with
  | nil => simp
  | cons i rest ih =>
    rw [List.foldl_cons, ih, List.getElem?_modify]
    by_cases hij : i = j
    · subst hij
      cases tasks[i]? <;> simp [Task.ended]
    · simp [hij, Ne.symm hij]

/-- If no loop waits for an answer and all of them end at once, a shutdown is that of the session. -/
theorem shutdown?_leaves (hfree : w.busy = []) :
    w.shutdown? ((List.range w.session.tasks.length).map .leave) = some w.session.shutdown := by
  have hended : ∀ task ∈ (List.range w.session.tasks.length).foldl (fun tasks i => tasks.modify i Task.ended)
      w.session.tasks, task.alive = false := by
    intro task htask
    obtain ⟨j, hj⟩ := List.mem_iff_getElem?.mp htask
    rw [getElem?_foldl_ended] at hj
    split at hj
    · obtain ⟨before, -, rfl⟩ := Option.map_eq_some_iff.mp hj
      rfl
    · next hout =>
      rw [List.mem_range] at hout
      exact absurd (List.getElem?_eq_some_iff.mp hj).1 hout
  unfold shutdown?
  rw [play_leaves (w := w.stop) rfl hfree, Option.bind_some]
  exact if_pos hended

end Working

end Failsafe
