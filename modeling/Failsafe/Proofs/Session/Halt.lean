import Failsafe.Proofs.Session.Dropped
import Failsafe.Proofs.Session.Gate
import Failsafe.Proofs.Session.Moves
import Failsafe.Proofs.Session.Opening

/-!
# The halt flag

Two things concern the halt flag: a failed call, of which it is decided whether trading stops, and an operator who
resumes trading. `Session.haltEntries` lists both, in order, over some commands: what a run decided about its failed
calls, and who resumed trading in the course of it. The flag is a latch over this list (`HaltEntry.latch`): it is
set if and only if trading was to stop since it was last resumed (`Halts`), and an event tells of each turn of it
(`HaltEntry.turns`).

`Session.Latches` says so of what a session goes through. Everything but a failed call and a resumption goes along
with an empty list (`throughWork_still`), so it is enough to follow a run through its attempts (`Unfolds.latches`).
-/

namespace Failsafe

/-! ## The latch -/

/-- What was decided about a failed call. -/
structure Decision where
  incident : Incident
  /-- Whether the breaker was active at the time. -/
  breakerActive : Bool
  action : Action
  /-- The halt flag right after it. -/
  halted : Bool

/-- What concerns the halt flag. -/
inductive HaltEntry where
  | decided (d : Decision)
  | resumed

namespace HaltEntry

/-- The halt flag after an entry. -/
def latch (flag : Bool) : HaltEntry → Bool
  | decided d => flag || d.action.stopTrading
  | resumed => false

/-- The event of an entry that turns the flag. -/
def event : HaltEntry → Event
  | decided d => .tradingHalted d.incident.operation d.incident.category d.breakerActive
  | resumed => .tradingResumed

/-- The events of entries: one for each that turns the flag. -/
def turns (flag : Bool) : List HaltEntry → List Event
  | [] => []
  | e :: rest => if e.latch flag = flag then turns flag rest else e.event :: turns (e.latch flag) rest

/-- Each decision has on it the flag that the entries up to it make. -/
def Honest (flag : Bool) : List HaltEntry → Prop
  | [] => True
  | e :: rest => (∀ d, e = decided d → d.halted = e.latch flag) ∧ Honest (e.latch flag) rest

theorem turns_append (flag : Bool) (record rest : List HaltEntry) :
    turns flag (record ++ rest) = turns flag record ++ turns (record.foldl latch flag) rest := by
  induction record generalizing flag with
  | nil => rfl
  | cons e record ih =>
    rw [List.cons_append, turns, turns, List.foldl_cons]
    split
    · next hsame => rw [ih, hsame]
    · rw [ih, List.cons_append]

theorem honest_append {flag : Bool} {record rest : List HaltEntry} :
    Honest flag (record ++ rest) ↔ Honest flag record ∧ Honest (record.foldl latch flag) rest := by
  induction record generalizing flag with
  | nil => simp [Honest]
  | cons e record ih => rw [List.cons_append, Honest, Honest, ih, List.foldl_cons, and_assoc]

/-- The flag on a decision is the latch over the entries up to it. -/
theorem Honest.halted {flag : Bool} {before since : List HaltEntry} {d : Decision}
    (h : Honest flag (before ++ decided d :: since)) : d.halted = (before ++ [decided d]).foldl latch flag := by
  rw [List.foldl_append]
  exact (honest_append.mp h).2.1 d rfl

end HaltEntry

/-- Trading is to stop: it was decided so since it was last resumed. -/
def Halts (record : List HaltEntry) : Prop :=
  ∃ before d since, record = before ++ .decided d :: since ∧ d.action.stopTrading = true ∧ .resumed ∉ since

theorem halts_cons {e : HaltEntry} {rest : List HaltEntry} :
    Halts (e :: rest) ↔ Halts rest ∨ ∃ d, e = .decided d ∧ d.action.stopTrading = true ∧ .resumed ∉ rest := by
  constructor
  · rintro ⟨before, d, since, hrecord, hstop, hresumed⟩
    rcases List.cons_eq_append_iff.mp hrecord with ⟨rfl, hfirst⟩ | ⟨before, rfl, hrest⟩
    · obtain ⟨he, rfl⟩ := List.cons.inj hfirst
      exact .inr ⟨d, he.symm, hstop, hresumed⟩
    · exact .inl ⟨before, d, since, hrest, hstop, hresumed⟩
  · rintro (⟨before, d, since, rfl, hstop, hresumed⟩ | ⟨d, rfl, hstop, hresumed⟩)
    · exact ⟨e :: before, d, since, rfl, hstop, hresumed⟩
    · exact ⟨[], d, rest, rfl, hstop, hresumed⟩

/-- What the latch makes of a flag: it is set by what is recorded, or it was set and nobody has resumed. -/
theorem foldl_latch_iff (flag : Bool) (record : List HaltEntry) :
    record.foldl HaltEntry.latch flag = true ↔ Halts record ∨ flag = true ∧ .resumed ∉ record := by
  induction record generalizing flag with
  | nil => simp [Halts]
  | cons e rest ih =>
    rw [List.foldl_cons, ih, halts_cons]
    cases e with
    | resumed => simp [HaltEntry.latch]
    | decided d =>
      have hmem : .resumed ∉ .decided d :: rest ↔ .resumed ∉ rest := by simp
      have hlast : (∃ d', HaltEntry.decided d = .decided d' ∧ d'.action.stopTrading = true ∧ .resumed ∉ rest) ↔
          d.action.stopTrading = true ∧ .resumed ∉ rest := by simp
      rw [hmem, hlast, HaltEntry.latch, Bool.or_eq_true]
      tauto

/-- The latch is set if and only if trading is to stop. -/
theorem halts_iff (record : List HaltEntry) : Halts record ↔ record.foldl HaltEntry.latch false = true := by
  simp [foldl_latch_iff]

instance (record : List HaltEntry) : Decidable (Halts record) := decidable_of_iff' _ (halts_iff record)

/-! ## Turns -/

namespace Event

/-- What the halt flag has turned to, if the event tells of a turn of it. -/
def turn? : Event → Option Bool
  | .tradingHalted _ _ _ => some true
  | .tradingResumed => some false
  | _ => none

/-- Whether an event tells of a turn of the halt flag. -/
def ofHalt (e : Event) : Bool := e.turn?.isSome

theorem not_ofHalt_of_ofState {e : Event} (h : e.ofState = true) : e.ofHalt = false := by
  cases e <;> first | rfl | exact absurd h (by simp [ofState])

theorem filterMap_turn?_filter (events : List Event) :
    (events.filter ofHalt).filterMap turn? = events.filterMap turn? := by
  rw [List.filterMap_filter]
  congr 1
  funext e
  cases e <;> rfl

end Event

/-- The turns that are told of change the flag every time. -/
theorem HaltEntry.isChain_turns (flag : Bool) (record : List HaltEntry) :
    (flag :: (turns flag record).filterMap Event.turn?).IsChain (· ≠ ·) := by
  induction record generalizing flag with
  | nil => simp [turns]
  | cons e rest ih =>
    unfold turns
    split
    · exact ih flag
    · next hturns =>
      have hturn : e.event.turn? = some (e.latch flag) := by
        cases e with
        | resumed => rfl
        | decided d =>
          -- A decision turns the flag in one way only.
          cases flag with
          | true => rfl
          | false => exact congrArg some (Bool.eq_true_of_not_eq_false hturns).symm
      rw [List.filterMap_cons_some hturn]
      exact List.isChain_cons_cons.mpr ⟨Ne.symm hturns, ih _⟩

/-! ## What concerns the flag in a session -/

/-- What an act of somebody else is to the halt flag. -/
def SideEffect.haltEntry? : SideEffect → Option HaltEntry
  | .resume => some .resumed
  | _ => none

/-- What is decided about a failed call. -/
def Executor.decision (e : Executor) (incident : Incident) : Decision :=
  { incident
    breakerActive := e.breaker.active
    action := e.policy.decide incident e.breaker.active
    halted := (e.observe incident).1.halted }

namespace Session

/-- What was decided about a failure of an attempt. -/
def Attempt.decision (a : Attempt) (failure : Failure) : Decision :=
  a.answered.executor.decision (a.incident failure)

/-- What concerns the halt flag, from here on, in the course of a run. -/
def entriesThrough (deadline : Option Nat) (limit : Nat) (s : Session) (script : CallScript) :
    List Attempt → List HaltEntry
  | [] => (s.actsAmong deadline script.next.1.takes script.next.1.during).filterMap SideEffect.haltEntry?
  | a :: rest =>
    (a.acts deadline).filterMap SideEffect.haltEntry? ++
      match a.step.result with
      | .ok _ => []
      | .error failure =>
        .decided (a.decision failure) ::
          if a.goesOn limit failure then
            (a.waitActs deadline failure).filterMap SideEffect.haltEntry? ++
              match a.waited deadline failure with
              | (_, false) => []
              | (next, true) => entriesThrough deadline limit next script.next.2 rest
          else []

/-- What concerns the halt flag in a run. -/
def runEntries (s : Session) (deadline : Option Nat) (request : RunRequest) : List HaltEntry :=
  if s.executor.breaker.active then []
  else s.entriesThrough deadline s.executor.maxAttempts request.script (s.attempts deadline request)

/-- What concerns the halt flag in a command. -/
def commandEntries (s : Session) : Command → List HaltEntry
  | .run request | .runFor _ request => s.runEntries (request.deadline s.now) request
  | .resume => [.resumed]
  | _ => []

/-- What concerns the halt flag in some commands. -/
def haltEntries (s : Session) : List Command → List HaltEntry
  | [] => []
  | command :: rest => s.commandEntries command ++ (s.step command).1.haltEntries rest

/-- From `s` to `s'` the halt flag went as the entries say. -/
structure Latches (s : Session) (record : List HaltEntry) (s' : Session) : Prop where
  halted : s'.executor.halted = record.foldl HaltEntry.latch s.executor.halted
  honest : HaltEntry.Honest s.executor.halted record
  log : ∃ events : List Event, s'.log = events.reverse ++ s.log ∧
    events.filter Event.ofHalt = HaltEntry.turns s.executor.halted record

namespace Latches

variable {s s' s'' : Session} {record record' : List HaltEntry}

theorem trans (h : s.Latches record s') (h' : s'.Latches record' s'') : s.Latches (record ++ record') s'' := by
  have hhonest := h'.honest
  obtain ⟨events, hlog, hevents⟩ := h.log
  obtain ⟨events', hlog', hevents'⟩ := h'.log
  rw [h.halted] at hhonest hevents'
  refine ⟨?_, HaltEntry.honest_append.mpr ⟨h.honest, hhonest⟩, events ++ events', ?_, ?_⟩
  · rw [h'.halted, h.halted, List.foldl_append]
  · rw [hlog', hlog, List.reverse_append, List.append_assoc]
  · rw [List.filter_append, hevents, hevents', HaltEntry.turns_append]

/-- The flag is what it was, and no event tells otherwise. -/
theorem still (hhalted : s'.executor.halted = s.executor.halted) (events : List Event)
    (hlog : s'.log = events.reverse ++ s.log) (hevents : events.filter Event.ofHalt = []) : s.Latches [] s' :=
  ⟨hhalted, trivial, events, hlog, hevents⟩

/-- Nothing concerned the flag afterwards. -/
theorem andStill (h : s.Latches record s') (h' : s'.Latches [] s'') : s.Latches record s'' := by
  have hboth := h.trans h'
  rw [List.append_nil] at hboth
  exact hboth

end Latches

theorem throughWork_still : ThroughWork fun s s' => s.Latches [] s' where
  refl := fun s => .still rfl [] rfl rfl
  trans := Latches.andStill
  beside := fun h => .still (by rw [h.executor]) [] h.log rfl
  breaker := fun s breaker => .still rfl [] rfl rfl
  tended := fun {s registry events} h => by
    refine .still rfl events rfl (List.filter_eq_nil_iff.mpr fun e he => ?_)
    rw [Event.not_ofHalt_of_ofState (h.ofState e he)]
    simp

theorem sideEffect_resume (s : Session) :
    s.sideEffect .resume = { s with executor := s.executor.resume.1 }.emit s.executor.resume.2 := rfl

theorem latches_resume (s : Session) : s.Latches [.resumed] (s.sideEffect .resume) := by
  rw [s.sideEffect_resume]
  refine ⟨rfl, ⟨fun _ hd => (nomatch hd), trivial⟩, s.executor.resume.2, rfl, ?_⟩
  unfold HaltEntry.turns Executor.resume
  cases s.executor.halted <;> rfl

theorem throughActs_latches : ThroughActs fun s acts s' => s.Latches (acts.filterMap SideEffect.haltEntry?) s' where
  refl := throughWork_still.refl
  trans := fun h h' => by
    rw [List.filterMap_append]
    exact h.trans h'
  sleep := throughWork_still.throughTime.sleep
  sideEffect := fun s effect => by
    cases effect with
    | resume => exact s.latches_resume
    | _ => exact throughWork_still.breaker s _

end Session

namespace Executor

theorem halted_observe (e : Executor) (incident : Incident) :
    (e.observe incident).1.halted = (e.halted || (e.policy.decide incident e.breaker.active).stopTrading) := by
  unfold observe
  dsimp only
  split
  · next hstop =>
    rw [hstop, Bool.or_true]
    rfl
  · next hstop => rw [Bool.eq_false_iff.mpr hstop, Bool.or_false]

/-- What is logged of a failed call besides the call itself is a turn of the flag. -/
theorem filter_ofHalt_observe (e : Executor) (incident : Incident) :
    (e.observe incident).2.1.filter Event.ofHalt = HaltEntry.turns e.halted [.decided (e.decision incident)] := by
  show _ = if (e.halted || (e.policy.decide incident e.breaker.active).stopTrading) = e.halted then []
    else [Event.tradingHalted incident.operation incident.category e.breaker.active]
  unfold observe
  dsimp only
  split
  · next hstop =>
    rw [hstop, Bool.or_true]
    show List.filter Event.ofHalt (_ :: if e.halted = true then [] else _) = _
    cases e.halted <;> rfl
  · next hstop =>
    rw [Bool.eq_false_iff.mpr hstop, Bool.or_false, if_pos rfl]
    rfl

theorem halted_giveUp (e : Executor) (now : Nat) (incident : Incident) (action : Action) :
    (e.giveUp now incident action).1.halted = e.halted := by
  unfold giveUp
  dsimp only
  split <;> rfl

theorem filter_ofHalt_giveUp (e : Executor) (now : Nat) (incident : Incident) (action : Action) :
    (e.giveUp now incident action).2.filter Event.ofHalt = [] := by
  unfold giveUp
  dsimp only
  split <;> rfl

end Executor

namespace Session

namespace Attempt

variable (a : Attempt) (failure : Failure)

/-- A failed call is a decision. -/
theorem latches_observed : a.answered.Latches [.decided (a.decision failure)] (a.observed failure) := by
  have hhalted : (a.observed failure).executor.halted =
      (a.answered.executor.halted || (a.action failure).stopTrading) := Executor.halted_observe _ _
  refine ⟨hhalted, ⟨fun d hd => ?_, trivial⟩, (a.answered.executor.observe (a.incident failure)).2.1, rfl, ?_⟩
  · obtain rfl := HaltEntry.decided.inj hd
    exact hhalted
  · exact Executor.filter_ofHalt_observe _ _

theorem still_givenUp : (a.observed failure).Latches [] (a.givenUp failure) :=
  .still (Executor.halted_giveUp _ _ _ _) _ rfl (Executor.filter_ofHalt_giveUp _ _ _ _)

theorem still_succeeded : a.answered.Latches [] a.succeeded := throughWork_still.breaker a.answered _

end Attempt

variable {deadline : Option Nat} {limit : Nat} {s s' : Session} {run : Run} {script : CallScript} {a : Attempt}
  {attempts : List Attempt} {calls : List Call} {outcome : RunOutcome}

/-- A run is a latch over what its course brings. -/
theorem Unfolds.latches (h : Unfolds deadline limit s run script attempts s' calls outcome) :
    s.Latches (s.entriesThrough deadline limit script attempts) s' := by
  induction h with
  | @dropped s run script s' hsleep =>
    have hcall := throughActs_latches.sleepAmong s deadline script.next.1.takes script.next.1.during
    rw [hsleep] at hcall
    exact hcall
  | @succeeded s run script a value hanswers hresult =>
    have hanswered := throughActs_latches.answers hanswers
    unfold entriesThrough
    rw [hresult, List.append_nil]
    exact hanswered.andStill a.still_succeeded
  | @gaveUp s run script a failure hanswers hresult hends =>
    have hanswered := throughActs_latches.answers hanswers
    unfold entriesThrough
    rw [hresult]
    dsimp only
    rw [if_neg hends]
    exact hanswered.trans ((a.latches_observed failure).andStill (a.still_givenUp failure))
  | @droppedWaiting s run script a failure s' hanswers hresult hgoes hsleep =>
    have hanswered := throughActs_latches.answers hanswers
    have hwaited := throughActs_latches.sleepAmong (a.observed failure) deadline (a.action failure).delay.millisUp
      a.step.between
    rw [hsleep] at hwaited
    have hsleep : a.waited deadline failure = (s', false) := hsleep
    unfold entriesThrough
    rw [hresult]
    dsimp only
    rw [if_pos hgoes, hsleep, List.append_nil]
    exact hanswered.trans ((a.latches_observed failure).trans hwaited)
  | @retried s run script a failure next rest s'' calls outcome hanswers hresult hgoes hsleep hrest ih =>
    have hanswered := throughActs_latches.answers hanswers
    have hwaited := throughActs_latches.sleepAmong (a.observed failure) deadline (a.action failure).delay.millisUp
      a.step.between
    rw [hsleep] at hwaited
    have hsleep : a.waited deadline failure = (next, true) := hsleep
    unfold entriesThrough
    rw [hresult]
    dsimp only
    rw [if_pos hgoes, hsleep]
    exact hanswered.trans ((a.latches_observed failure).trans (hwaited.trans ih))

theorem run_latches (s : Session) (deadline : Option Nat) (request : RunRequest) :
    s.Latches (s.runEntries deadline request) (s.run deadline request).1 := by
  unfold runEntries
  cases hactive : s.executor.breaker.active with
  | true =>
    rw [(run_active hactive deadline request).1]
    exact throughWork_still.refl s
  | false => exact (run_unfolds hactive deadline request).latches

theorem runFor_latches (s : Session) (deadline : Option Nat) (component : String) (request : RunRequest) :
    s.Latches (s.runEntries deadline request) (s.runFor deadline component request).1 := by
  have hrun := s.run_latches deadline request
  rcases s.runFor_cases deadline component request with hended | ⟨error, isCritical, hreport⟩
  · rw [hended]
    exact hrun
  · rw [hreport]
    exact hrun.andStill
      (throughWork_still.throughBackground.report _ (fun _ => .still rfl [] rfl rfl) deadline component error isCritical)

theorem played_latches (s : Session) (command : Command) :
    s.Latches (s.commandEntries command) (s.played command) := by
  suffices h : s.Latches (s.commandEntries command) (s.perform command).1 from h.andStill (throughWork_still.throughTime.settle _ _)
  cases command with
  | run request => exact s.run_latches _ request
  | runFor component request => exact s.runFor_latches _ component request
  | resume => exact s.latches_resume
  | report name error isCritical =>
    rw [s.perform_report]
    exact throughWork_still.throughBackground.report s (fun _ => .still rfl [] rfl rfl) none name error isCritical
  | _ => exact throughWork_still.perform s rfl rfl (by simp)

theorem haltEntries_concat (s : Session) (commands : List Command) (command : Command) :
    s.haltEntries (commands ++ [command]) = s.haltEntries commands ++ (s.after commands).commandEntries command := by
  induction commands generalizing s with
  | nil => exact List.append_nil _
  | cons first rest ih =>
    show s.commandEntries first ++ (s.step first).1.haltEntries (rest ++ [command]) =
      (s.commandEntries first ++ (s.step first).1.haltEntries rest) ++ _
    rw [ih, List.append_assoc]
    rfl

/-- Over some commands the flag is a latch, its turns are told of, and all events have been taken. -/
theorem chronicle_latches (hlog : s.log = []) (commands : List Command) :
    let c := s.chronicle commands
    let record := s.haltEntries commands
    c.session.log = [] ∧ c.session.executor.halted = record.foldl HaltEntry.latch s.executor.halted ∧
      HaltEntry.Honest s.executor.halted record ∧
      c.events.filter Event.ofHalt = HaltEntry.turns s.executor.halted record := by
  induction commands using List.reverseRecOn with
  | nil => exact ⟨hlog, rfl, trivial, rfl⟩
  | append_singleton commands command ih =>
    obtain ⟨htaken, hhalted, hhonest, hevents⟩ := ih
    rw [chronicle_concat, haltEntries_concat, ← chronicle_session]
    generalize s.chronicle commands = c at htaken hhalted hevents ⊢
    generalize s.haltEntries commands = record at hhalted hhonest hevents ⊢
    have hplayed := c.session.played_latches command
    have hhonest' := hplayed.honest
    obtain ⟨events, hadded, hturns⟩ := hplayed.log
    rw [hhalted] at hhonest' hturns
    refine ⟨rfl, ?_, HaltEntry.honest_append.mpr ⟨hhonest, hhonest'⟩, ?_⟩
    · rw [List.foldl_append, ← hhalted]
      exact hplayed.halted
    · show (c.events ++ (c.session.played command).log.reverse).filter Event.ofHalt = _
      rw [hadded, htaken, List.append_nil, List.reverse_reverse, List.filter_append, hevents, hturns,
        HaltEntry.turns_append]

/-- **The halt flag.** In every session, after any commands, among them runs whose calls fail in any way and resumptions
during a call or between two calls:

* the halt flag is set if and only if it was decided to stop trading since somebody last resumed it. This holds
  after the last command, and it has held after every decision on the way;
* the events of the flag are those of its turns, in order: that trading is halted, of each decision that set the
  flag when it was clear, with what the decision was about, and that trading is resumed, of each resumption that
  cleared the flag when it was set. So they alternate, and the first tells that trading is halted;
* trading has to stop if and only if the flag is set or the breaker is active. -/
theorem chronicle_halt {settings : Settings} {clock : Clock} (hnew : new? settings clock = some s)
    (commands : List Command) :
    let c := s.chronicle commands
    let record := s.haltEntries commands
    (c.session.executor.halted = true ↔ Halts record) ∧
      (∀ before d since, record = before ++ .decided d :: since →
        (d.halted = true ↔ Halts (before ++ [.decided d]))) ∧
      c.events.filter Event.ofHalt = HaltEntry.turns false record ∧
      (false :: c.events.filterMap Event.turn?).IsChain (· ≠ ·) ∧
      (c.session.shouldStopTrading = true ↔ Halts record ∨ c.session.executor.breaker.active = true) := by
  intro c record
  obtain ⟨-, hhalted, hhonest, hevents⟩ := chronicle_latches (new?_fresh hnew).log commands
  rw [new?_halted hnew] at hhalted hhonest hevents
  have hflag : c.session.executor.halted = true ↔ Halts record := by rw [halts_iff, ← hhalted]
  refine ⟨hflag, ?_, hevents, ?_, ?_⟩
  · intro before d since hrecord
    have hd : HaltEntry.Honest false (before ++ .decided d :: since) := hrecord ▸ hhonest
    rw [hd.halted, halts_iff]
  · rw [← Event.filterMap_turn?_filter, hevents]
    exact HaltEntry.isChain_turns false record
  · unfold shouldStopTrading
    rw [Bool.or_eq_true, hflag]

/-- An operation without the balance it needs; the operator resumes trading while its call is under way. -/
def penniless : RunRequest :=
  ⟨"swap", [],
    ⟨[], { takes := 10, side := [], result := .error (.plain "insufficient balance"), during := [(5, .resume)] }⟩, none⟩

/-- Two such runs, so that the second one finds trading halted, resumes it and halts it again; another resumption, and a
third run, with nothing to resume. -/
def outages : List Command := [.run penniless, .run penniless, .resume, .runFor "feed" penniless]

/-- Trading is halted three times and resumed twice, and it has to stop in the end. -/
theorem chronicle_halt_outages :
    ∃ s, new? .default = some s ∧
      let c := s.chronicle outages
      c.session.executor.halted = true ∧ c.events.filterMap Event.turn? = [true, false, true, false, true] ∧
        c.session.shouldStopTrading = true := by
  have hvalues : (new? .default).map (fun s =>
      (decide (Halts (s.haltEntries outages)),
        (HaltEntry.turns false (s.haltEntries outages)).filterMap Event.turn?)) =
          some (true, [true, false, true, false, true]) := by decide +kernel
  obtain ⟨s, hnew, hvalues⟩ := Option.map_eq_some_iff.mp hvalues
  simp only [Prod.mk.injEq, decide_eq_true_eq] at hvalues
  obtain ⟨hhalts, hturns⟩ := hvalues
  obtain ⟨hflag, -, hevents, -, hstop⟩ := chronicle_halt hnew outages
  refine ⟨s, hnew, hflag.mpr hhalts, ?_, hstop.mpr (.inl hhalts)⟩
  rw [← Event.filterMap_turn?_filter, hevents, hturns]

end Session

end Failsafe
