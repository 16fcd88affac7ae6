import Failsafe.Proofs.Breaker.Totals
import Failsafe.Proofs.Session.Gate
import Failsafe.Proofs.Session.Opening

/-!
# The ledger of an executor

Eight numbers are kept on what runs do, in three places: the history counts incidents, in all and by category and
severity, and escalations; the breaker counts successes and failures; and the events of failed calls and of
escalations can be counted. `Books` holds all eight. A run adds to them what its failed calls and its outcome call
for, whichever way it ends (`Unfolds.books`), and nothing else adds anything as long as nobody but the runs lays hands on
the breaker (`Quiet.books_eq`). So the books of a new session say what its chronicle says (`chronicle_ledger`).
-/

namespace Failsafe

theorem Tally.total_add {κ : Type} [DecidableEq κ] (tally : Tally κ) (key : κ) :
    (tally.add key).total = tally.total + 1 := by
  induction tally with
  | nil => rfl
  | cons entry rest ih =>
    obtain ⟨k, n⟩ := entry
    unfold add
    split
    · simp only [total]
      omega
    · simp only [total, ih]
      omega

namespace Event

/-- Whether an event tells of a call that failed. -/
def isFailure : Event → Bool
  | .operationFailed _ => true
  | _ => false

/-- Whether an event is an escalation. -/
def isEscalation : Event → Bool
  | .escalation _ => true
  | _ => false

theorem not_isFailure_of_not_ofRun {e : Event} (h : e.ofRun = false) : e.isFailure = false := by
  cases e <;> first | rfl | exact absurd h (by simp [ofRun])

theorem not_isEscalation_of_not_ofRun {e : Event} (h : e.ofRun = false) : e.isEscalation = false := by
  cases e <;> first | rfl | exact absurd h (by simp [ofRun])

end Event

/-! ## Books -/

/-- All that is counted about runs. -/
@[ext]
structure Books where
  /-- Incidents in the history, in all. -/
  errors : Nat
  /-- The counts by category together. -/
  categories : Nat
  /-- The counts by severity together. -/
  severities : Nat
  successes : Nat
  failures : Nat
  escalations : Nat
  failureEvents : Nat
  escalationEvents : Nat

namespace Books

instance : Add Books where
  add a b :=
    { errors := a.errors + b.errors
      categories := a.categories + b.categories
      severities := a.severities + b.severities
      successes := a.successes + b.successes
      failures := a.failures + b.failures
      escalations := a.escalations + b.escalations
      failureEvents := a.failureEvents + b.failureEvents
      escalationEvents := a.escalationEvents + b.escalationEvents }

theorem add_assoc (a b c : Books) : a + b + c = a + (b + c) := by
  ext <;> exact Nat.add_assoc _ _ _

/-- What some failed calls are to be counted as, and a run that ends after them. -/
def entry (failedCalls successes failures escalations : Nat) : Books :=
  { errors := failedCalls
    categories := failedCalls
    severities := failedCalls
    successes
    failures
    escalations
    failureEvents := failedCalls
    escalationEvents := escalations }

theorem entry_add (n k l m n' k' l' m' : Nat) :
    entry n k l m + entry n' k' l' m' = entry (n + n') (k + k') (l + l') (m + m') := rfl

end Books

/-- The books of an executor and of some events. -/
def Executor.books (e : Executor) (events : List Event) : Books :=
  { errors := e.history.total
    categories := e.history.byCategory.total
    severities := e.history.bySeverity.total
    successes := e.breaker.totalSuccesses
    failures := e.breaker.totalFailures
    escalations := e.history.escalations
    failureEvents := events.countP Event.isFailure
    escalationEvents := events.countP Event.isEscalation }

namespace Session

/-- The books of a session since its events were last taken. -/
def books (s : Session) : Books := s.executor.books s.log

/-- What a run adds to the books. -/
def RunOutcome.books (outcome : RunOutcome) (failedCalls : Nat) : Books :=
  .entry failedCalls outcome.isValue.toNat outcome.isFailed.toNat outcome.escalates.toNat

/-- What runs add to the books. -/
def booksOf (runs : List PastRun) : Books :=
  .entry (runs.map (·.failedCalls)).sum (runs.countP (·.outcome.isValue)) (runs.countP (·.outcome.isFailed))
    (runs.countP (·.outcome.escalates))

variable {deadline : Option Nat} {limit : Nat} {s s' : Session} {run : Run} {script : CallScript}
  {attempts : List Attempt} {calls : List Call} {outcome : RunOutcome}

theorem booksOf_cons (r : PastRun) (runs : List PastRun) :
    booksOf (r :: runs) = booksOf runs + r.outcome.books r.failedCalls := by
  have hcount : ∀ p : PastRun → Bool, (r :: runs).countP p = runs.countP p + (p r).toNat := by
    intro p
    rw [List.countP_cons]
    cases p r <;> rfl
  unfold booksOf RunOutcome.books
  rw [Books.entry_add, hcount, hcount, hcount, List.map_cons, List.sum_cons, Nat.add_comm r.failedCalls]

/-- What is quiet is nothing to the books. -/
theorem Quiet.books_eq {time : Nat} (h : s.Quiet time s') : s'.books = s.books := by
  obtain ⟨times, -, hbreaker⟩ := h.breaker
  obtain ⟨hsuccesses, hfailures⟩ := Breaker.foldl_expire_sameTotals s.executor.breaker times
  obtain ⟨events, hlog, hevents⟩ := h.log
  have hnone : ∀ p : Event → Bool, (∀ e : Event, e.ofRun = false → p e = false) →
      s'.log.countP p = s.log.countP p := by
    intro p hp
    have hzero : events.countP p = 0 := by
      rw [List.countP_eq_zero]
      intro e he
      simp [hp e (hevents e he)]
    rw [hlog, List.countP_append, hzero, Nat.zero_add]
  unfold Session.books Executor.books
  rw [h.books.history, hbreaker, hsuccesses, hfailures,
    hnone _ fun _ => Event.not_isFailure_of_not_ofRun, hnone _ fun _ => Event.not_isEscalation_of_not_ofRun]

/-! ## One run -/

end Session

namespace Executor

variable {p : Event → Bool}

/-- Taking note of a failed call writes one event of it, and perhaps that trading is halted. -/
theorem countP_observe (h : ∀ operation category active, p (.tradingHalted operation category active) = false)
    (e : Executor) (incident : Incident) :
    (e.observe incident).2.1.countP p = (p (.ofIncident incident e.redactor)).toNat := by
  have hhalt : (Executor.halt { e with history := e.history.record incident } incident).2.countP p = 0 := by
    unfold halt
    dsimp only
    split
    · rfl
    · simp [h]
  have hcons : ∀ events : List Event, events.countP p = 0 → ∀ logged,
      (logged :: events).countP p = (p logged).toNat := by
    intro events hevents logged
    rw [List.countP_cons, hevents, Nat.zero_add]
    cases p logged <;> rfl
  unfold observe
  dsimp only
  split
  · exact hcons _ hhalt _
  · exact hcons [] rfl _

theorem countP_giveUp (e : Executor) (now : Nat) (incident : Incident) (action : Action) :
    (e.giveUp now incident action).2.countP p =
      if action.escalate then (p (.ofEscalation incident e.redactor escalationReason)).toNat else 0 := by
  unfold giveUp
  dsimp only
  split
  · rw [List.countP_singleton]
    cases p (.ofEscalation incident e.redactor escalationReason) <;> rfl
  · rfl

end Executor

namespace Session

variable {deadline : Option Nat} {limit : Nat} {s s' : Session} {run : Run} {script : CallScript}
  {attempts : List Attempt} {calls : List Call} {outcome : RunOutcome}

theorem emit_books (s : Session) (executor : Executor) (events : List Event) :
    ({ s with executor }.emit events).books = executor.books (events ++ s.log) := by
  have hcount : ∀ p : Event → Bool, (events.reverse ++ s.log).countP p = (events ++ s.log).countP p := by
    intro p
    rw [List.countP_append, List.countP_reverse, List.countP_append]
  unfold Session.books Executor.books
  rw [← hcount, ← hcount]
  rfl

namespace Attempt

variable (a : Attempt)

/-- A failure that is taken note of is one failed call. -/
theorem observed_books (failure : Failure) :
    (a.observed failure).books = a.answered.books + .entry 1 0 0 0 := by
  have hemit : (a.observed failure).books =
      (a.answered.executor.observe (a.incident failure)).1.books
        ((a.answered.executor.observe (a.incident failure)).2.1 ++ a.answered.log) := emit_books a.answered _ _
  rw [hemit]
  unfold Executor.books
  rw [Executor.observe_history, Executor.observe_breaker, List.countP_append, List.countP_append,
    Executor.countP_observe fun _ _ _ => rfl, Executor.countP_observe fun _ _ _ => rfl]
  exact Books.ext rfl (Tally.total_add _ _) (Tally.total_add _ _) rfl rfl rfl (Nat.add_comm _ _) (Nat.zero_add _)

/-- Giving up is a failed run, and perhaps an escalation. -/
theorem givenUp_books (failure : Failure) :
    (a.givenUp failure).books = (a.observed failure).books + .entry 0 0 1 (a.action failure).escalate.toNat := by
  let ended := (a.observed failure).executor.giveUp a.answered.now (a.incident failure) (a.action failure)
  have hemit : (a.givenUp failure).books = ended.1.books (ended.2 ++ (a.observed failure).log) :=
    emit_books (a.observed failure) _ _
  have hbreaker : ended.1.breaker = (a.observed failure).executor.breaker.recordFailure a.answered.now :=
    Executor.giveUp_breaker _ _ _ _
  have hhistory : ended.1.history = if (a.action failure).escalate then
      (a.observed failure).executor.history.recordEscalation else (a.observed failure).executor.history :=
    Executor.giveUp_history _ _ _ _
  have htotals := Breaker.recordFailure_totals (a.observed failure).executor.breaker a.answered.now
  rw [hemit]
  unfold Executor.books
  rw [hbreaker, htotals.successes, htotals.failures, hhistory, List.countP_append, List.countP_append,
    Executor.countP_giveUp, Executor.countP_giveUp]
  cases (a.action failure).escalate with
  | true => exact Books.ext rfl rfl rfl rfl rfl rfl (Nat.zero_add _) (Nat.add_comm _ _)
  | false => exact Books.ext rfl rfl rfl rfl rfl rfl (Nat.zero_add _) (Nat.zero_add _)

theorem succeeded_books : a.succeeded.books = a.answered.books + .entry 0 1 0 0 := rfl

end Attempt

/-- A run adds its failed calls and its outcome. -/
theorem Unfolds.books (h : Unfolds deadline limit s run script attempts s' calls outcome)
    (hscript : script.HandsOff) :
    s'.books = s.books + outcome.books (attempts.filterMap Attempt.incident?).length := by
  induction h with
  | @dropped s run script s' hsleep =>
    have hquiet := s.sleepAmong_quiet deadline script.next.1.takes hscript.next.1.during
    rw [hsleep] at hquiet
    exact hquiet.books_eq
  | @succeeded s run script a value hanswers hresult =>
    rw [a.succeeded_books, (hanswers.quiet hscript).books_eq]
    simp [RunOutcome.books, RunOutcome.isValue, RunOutcome.isFailed, RunOutcome.escalates, Attempt.incident?, hresult]
  | @gaveUp s run script a failure hanswers hresult hends =>
    rw [a.givenUp_books, a.observed_books, (hanswers.quiet hscript).books_eq, Books.add_assoc, Books.entry_add,
      List.filterMap_cons, a.incident?_of_error hresult]
    simp [RunOutcome.books, RunOutcome.isValue, RunOutcome.isFailed, RunOutcome.escalates]
  | @droppedWaiting s run script a failure s' hanswers hresult hgoes hsleep =>
    -- The run is dropped after its failure has been taken note of, so that the failure counts.
    have hwaits := hanswers.waits_quiet hscript failure (a.action failure).delay.millisUp
    rw [hsleep] at hwaits
    rw [hwaits.books_eq, a.observed_books, (hanswers.quiet hscript).books_eq, List.filterMap_cons,
      a.incident?_of_error hresult]
    rfl
  | @retried s run script a failure next rest s'' calls outcome hanswers hresult hgoes hsleep hrest ih =>
    have hwaits := hanswers.waits_quiet hscript failure (a.action failure).delay.millisUp
    rw [hsleep] at hwaits
    rw [ih hscript.next.2, hwaits.books_eq, a.observed_books, (hanswers.quiet hscript).books_eq, List.filterMap_cons,
      a.incident?_of_error hresult, Books.add_assoc]
    unfold RunOutcome.books
    rw [Books.entry_add, List.length_cons, Nat.add_comm 1]
    simp

theorem run_books (s : Session) (deadline : Option Nat) {request : RunRequest} (hscript : request.script.HandsOff) :
    (s.run deadline request).1.books =
      s.books + (s.run deadline request).2.2.books ((s.attempts deadline request).filterMap Attempt.incident?).length := by
  cases hactive : s.executor.breaker.active with
  | true =>
    obtain ⟨hrun, hattempts⟩ := run_active hactive deadline request
    rw [hrun, hattempts]
    rfl
  | false => exact (run_unfolds hactive deadline request).books hscript

/-! ## Many commands -/

/-- A command that leaves the breaker to the runs adds to the books what its run adds, if it asks for one. -/
theorem played_books {command : Command} (h : command.HandsOff) :
    (s.played command).books = s.books + booksOf (command.request?.map s.pastRun).toList := by
  rcases performed_cases (s := s) h with ⟨request, hrequest, hscript, hquiet⟩ | ⟨hrequest, hquiet⟩
  · have hrun := s.run_books (request.deadline s.now) hscript
    rw [played_quiet.books_eq, hquiet.books_eq, hrun, hrequest]
    show _ = s.books + booksOf [s.pastRun request]
    rw [booksOf_cons]
    simp [booksOf, RunOutcome.books, Books.entry_add, pastRun]
  · rw [played_quiet.books_eq, hquiet.books_eq, hrequest]
    rfl

/-- Taking the events of a session moves them from its log to those taken before. -/
theorem books_taken (hlog : s.log = []) {x : Books} (h : s'.books = s.books + x) (events : List Event) :
    s'.executor.books (events ++ s'.log.reverse) = s.executor.books events + x := by
  obtain ⟨herrors, hcategories, hseverities, hsuccesses, hfailures, hescalations, hfailureEvents,
    hescalationEvents⟩ := Books.ext_iff.mp h
  have htaken : ∀ {p : Event → Bool} {n : Nat}, s'.log.countP p = s.log.countP p + n →
      (events ++ s'.log.reverse).countP p = events.countP p + n := by
    intro p n hcount
    rw [List.countP_append, List.countP_reverse, hcount, hlog, List.countP_nil, Nat.zero_add]
  exact Books.ext herrors hcategories hseverities hsuccesses hfailures hescalations (htaken hfailureEvents)
    (htaken hescalationEvents)

/-- The books agree with the chronicle, and all events have been taken. -/
structure Chronicle.Balanced (c : Chronicle) : Prop where
  taken : c.session.log = []
  books : c.session.executor.books c.events = booksOf c.runs

theorem booksOf_append (runs runs' : List PastRun) : booksOf (runs ++ runs') = booksOf runs' + booksOf runs := by
  unfold booksOf
  rw [Books.entry_add]
  simp [Nat.add_comm]

theorem Chronicle.Balanced.next {c : Chronicle} {command : Command} (h : c.Balanced) (hhands : command.HandsOff) :
    (c.next command).Balanced where
  taken := rfl
  books := by
    show (c.session.played command).executor.books (c.events ++ (c.session.played command).log.reverse) =
      booksOf ((command.request?.map c.session.pastRun).toList ++ c.runs)
    rw [books_taken h.taken (played_books hhands), h.books, booksOf_append]

theorem Fresh.balanced {settings : Settings} (h : Fresh settings s) : Chronicle.Balanced ⟨s, [], []⟩ where
  taken := h.log
  books := by
    show s.executor.books [] = booksOf []
    unfold Executor.books
    rw [h.history, h.breaker]
    rfl

theorem chronicle_balanced {settings : Settings} (h : Fresh settings s) {commands : List Command}
    (hhands : ∀ command ∈ commands, command.HandsOff) : (s.chronicle commands).Balanced :=
  chronicle_induction h.balanced (fun hbalanced hcommand => hbalanced.next hcommand) hhands

/-- **The ledger.** In every session, after any commands that leave breaker and history to the runs, whatever became
of these:

* the history has counted as many errors as calls of operations handed a failure back, and so have its counts by
  category and its counts by severity, each taken together;
* the breaker has counted as many successes as runs ended with a value, and as many failures as runs failed;
* the history has counted as many escalations as runs failed with the decision to escalate;
* the events that tell of a failed operation and those that escalate are as many as errors and escalations. -/
theorem chronicle_ledger {settings : Settings} {clock : Clock} (hnew : new? settings clock = some s)
    (commands : List Command) (hhands : ∀ command ∈ commands, command.HandsOff) :
    let c := s.chronicle commands
    let executor := c.session.executor
    let failedCalls := (c.runs.map (·.failedCalls)).sum
    let escalated := c.runs.countP (·.outcome.escalates)
    executor.history.total = failedCalls ∧
      executor.history.byCategory.total = executor.history.total ∧
      executor.history.bySeverity.total = executor.history.total ∧
      executor.breaker.totalSuccesses = c.runs.countP (·.outcome.isValue) ∧
      executor.breaker.totalFailures = c.runs.countP (·.outcome.isFailed) ∧
      executor.history.escalations = escalated ∧
      c.events.countP Event.isFailure = executor.history.total ∧
      c.events.countP Event.isEscalation = executor.history.escalations := by
  intro c executor failedCalls escalated
  obtain ⟨herrors, hcategories, hseverities, hsuccesses, hfailures, hescalations, hfailureEvents,
    hescalationEvents⟩ := Books.ext_iff.mp (chronicle_balanced (new?_fresh hnew) hhands).books
  exact ⟨herrors, hcategories.trans herrors.symm, hseverities.trans herrors.symm, hsuccesses, hfailures, hescalations,
    hfailureEvents.trans herrors.symm, hescalationEvents.trans hescalations.symm⟩

/-- An operation that fails once and is tried again after a second. -/
def flaky : RunRequest :=
  ⟨"ping", [],
    ⟨[{ takes := 10, side := [], result := .error .deadline }], { takes := 10, side := [], result := .ok .null }⟩,
    none⟩

/-- A run of each kind: with a value at last, dropped between two calls, failed twice, and refused. -/
def mixed : List Command :=
  [.run flaky, .run { flaky with timeout := some 500 }, .run failing, .runFor "feed" failing, .run ping]

/-- Four calls failed, the one of the dropped run among them, and two runs. -/
theorem chronicle_ledger_mixed :
    ∃ s, new? twoStrikes = some s ∧
      let c := s.chronicle mixed
      c.session.executor.history.total = 4 ∧ c.session.executor.history.byCategory.total = 4 ∧
        c.session.executor.history.bySeverity.total = 4 ∧ c.session.executor.breaker.totalSuccesses = 1 ∧
        c.session.executor.breaker.totalFailures = 2 ∧ c.session.executor.history.escalations = 2 ∧
        c.events.countP Event.isFailure = 4 ∧ c.events.countP Event.isEscalation = 2 := by
  have hvalues : (new? twoStrikes).map (fun s =>
      let runs := (s.chronicle mixed).runs
      ((runs.map (·.failedCalls)).sum, runs.countP (·.outcome.isValue), runs.countP (·.outcome.isFailed),
        runs.countP (·.outcome.escalates))) = some (4, 1, 2, 2) := by decide +kernel
  obtain ⟨s, hnew, hvalues⟩ := Option.map_eq_some_iff.mp hvalues
  simp only [Prod.mk.injEq] at hvalues
  obtain ⟨hcalls, hvalue, hfailed, hescalated⟩ := hvalues
  obtain ⟨herrors, hcategories, hseverities, hsuccesses, hfailures, hescalations, hfailureEvents,
    hescalationEvents⟩ := chronicle_ledger hnew mixed (by decide)
  rw [hcalls] at herrors
  rw [hescalated] at hescalations
  exact ⟨s, hnew, herrors, hcategories.trans herrors, hseverities.trans herrors, hsuccesses.trans hvalue,
    hfailures.trans hfailed, hescalations, hfailureEvents.trans herrors, hescalationEvents.trans hescalations⟩

end Session

end Failsafe
