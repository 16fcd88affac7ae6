import Failsafe.Proofs.Redaction.Tree
import Failsafe.Proofs.Session.Moves
import Failsafe.Proofs.Session.Unread
import Mathlib.Data.List.Forall2

/-!
# Secrets make no difference

Two runs are compared that differ in nothing but the secrets among their parameters, that is, in what stands under
sensitive keys. With redaction on nobody can tell them apart who does not see the parameters themselves.

The parameters go into the calls and into the incidents of failed calls, and from there to the policy, the events and
the history. `SameButSecrets` relates the two sides at each of these stations. The policy looks for a key and not for
a value (`Policy.decide_congr`), events and summaries are redacted (`Event.ofEscalation_congr`,
`Incident.recentError_congr`), and the history itself is never read (`withHistory`). So an attempt of one run goes with
an attempt of the other (`Answers.sameButSecrets`), and the runs go through the same rules (`Unfolds.sameButSecrets`).
-/

namespace Failsafe

/-! ## Incidents and what is made of them -/

/-- The two incidents agree but for secrets among their parameters. -/
structure Incident.SameButSecrets (i i' : Incident) : Prop where
  same : i' = { i with data := i'.data }
  data : Option.Rel Fields.SameButSecrets i.data i'.data

/-- The two histories agree but for secrets in the incidents they keep. -/
structure History.SameButSecrets (h h' : History) : Prop where
  same : h' = { h with entries := h'.entries }
  entries : List.Forall₂ Incident.SameButSecrets h.entries h'.entries

theorem Fields.SameButSecrets.contains_eq {fields fields' : Fields} (h : fields.SameButSecrets fields')
    (key : String) : fields'.contains key = fields.contains key := by
  have hkeys : ∀ fields : Fields, fields.contains key = (fields.map Prod.fst).any (· = key) := by
    intro fields
    unfold Fields.contains
    rw [List.any_map]
    rfl
  rw [hkeys, hkeys, h.keys_eq]

theorem Redactor.data_congr {data data' : Option Fields} (h : Option.Rel Fields.SameButSecrets data data') :
    data'.map (Redactor.fields ⟨true⟩) = data.map (Redactor.fields ⟨true⟩) := by
  cases h with
  | none => rfl
  | some h => exact congrArg some (Redactor.fields_congr h).symm

/-- The policy decides without looking at the values of parameters. -/
theorem Policy.decide_congr {i i' : Incident} (h : i.SameButSecrets i') (policy : Policy) (active : Bool) :
    policy.decide i' active = policy.decide i active := by
  have hwidened : slippageWidened i' = slippageWidened i := by
    have hdata := h.data
    unfold slippageWidened
    generalize i.data = data at hdata
    generalize i'.data = data' at hdata
    cases hdata with
    | none => rfl
    | some hdata => exact hdata.contains_eq slippageKey
  have hsame := h.same
  generalize i'.data = data at hsame
  subst hsame
  unfold Policy.decide
  rw [hwidened]
  rfl

theorem Event.ofIncident_congr {i i' : Incident} (h : i.SameButSecrets i') (redactor : Redactor) :
    Event.ofIncident i' redactor = Event.ofIncident i redactor := by
  rw [h.same]
  rfl

theorem Event.ofEscalation_congr {i i' : Incident} (h : i.SameButSecrets i') (reason : String) :
    Event.ofEscalation i' ⟨true⟩ reason = Event.ofEscalation i ⟨true⟩ reason := by
  have hdata := Redactor.data_congr h.data
  rw [h.same]
  unfold Event.ofEscalation
  rw [hdata]

theorem Incident.recentError_congr {i i' : Incident} (h : i.SameButSecrets i') :
    i'.recentError ⟨true⟩ = i.recentError ⟨true⟩ := by
  have hdata := Redactor.data_congr h.data
  rw [h.same]
  unfold Incident.recentError
  rw [hdata]

namespace History.SameButSecrets

variable {h h' : History}

theorem refl (h : History) : h.SameButSecrets h := by
  refine ⟨rfl, List.forall₂_same.mpr fun i _ => ⟨rfl, ?_⟩⟩
  cases i.data with
  | none => exact .none
  | some data => exact .some (.refl data)

theorem record (hh : h.SameButSecrets h') {i i' : Incident} (hi : i.SameButSecrets i') :
    (h.record i).SameButSecrets (h'.record i') := by
  have hlength := hh.entries.length_eq
  obtain ⟨hsame, hentries⟩ := hh
  generalize h'.entries = entries at hsame hentries hlength
  subst hsame
  have htail : List.Forall₂ Incident.SameButSecrets h.entries.tail entries.tail := by
    rw [← List.drop_one, ← List.drop_one]
    exact List.forall₂_drop 1 hentries
  unfold History.record
  dsimp only
  rw [← hlength]
  constructor
  · rw [hi.same]
  · refine List.rel_append ?_ (.cons hi .nil)
    split
    · exact htail
    · exact hentries

theorem recordEscalation (hh : h.SameButSecrets h') : h.recordEscalation.SameButSecrets h'.recordEscalation := by
  refine ⟨?_, hh.entries⟩
  rw [hh.same]
  rfl

/-- Summaries do not show what was secret. -/
theorem summary_eq (hh : h.SameButSecrets h') : h'.summary ⟨true⟩ = h.summary ⟨true⟩ := by
  have hlength := hh.entries.length_eq
  have hrecent : (h'.recent summaryLength).map (·.recentError ⟨true⟩) =
      (h.recent summaryLength).map (·.recentError ⟨true⟩) := by
    unfold History.recent
    rw [← hlength]
    have hlast := List.forall₂_drop (h.entries.length - summaryLength) hh.entries
    rw [← List.forall₂_eq_eq_eq, List.forall₂_map_left_iff, List.forall₂_map_right_iff]
    exact hlast.flip.imp fun i' i hi => Incident.recentError_congr hi
  have hsize : h'.size = h.size := hlength.symm
  unfold History.summary
  rw [hrecent, hsize, hh.same]

end History.SameButSecrets

/-! ## Executors and sessions -/

/-- The two executors agree but for secrets in what they have recorded. -/
structure Executor.SameButSecrets (e e' : Executor) : Prop where
  same : e' = { e with history := e'.history }
  history : e.history.SameButSecrets e'.history

/-- The two runs agree but for secrets among their parameters. -/
structure Run.SameButSecrets (run run' : Run) : Prop where
  same : run' = { run with params := run'.params }
  params : run.params.SameButSecrets run'.params

namespace Executor.SameButSecrets

variable {e e' : Executor}

theorem incident (h : e.SameButSecrets e') {run run' : Run} (hrun : run.SameButSecrets run') (failure : Failure) :
    (e.incident run failure).SameButSecrets (e'.incident run' failure) := by
  obtain ⟨hsame, hparams⟩ := hrun
  generalize run'.params = params at hsame hparams
  subst hsame
  rw [h.same]
  refine ⟨rfl, ?_⟩
  show Option.Rel Fields.SameButSecrets (if run.params.isEmpty then none else some run.params)
    (if params.isEmpty then none else some params)
  generalize run.params = params' at hparams
  cases hparams with
  | nil => exact .none
  | secret hkey hrest => exact .some (.secret hkey hrest)
  | field hfield hrest => exact .some (.field hfield hrest)

theorem succeed (h : e.SameButSecrets e') : e.succeed.SameButSecrets e'.succeed := by
  refine ⟨?_, h.history⟩
  rw [h.same]
  rfl

/-- A failed call is taken note of alike, and the events and the decision are the same. -/
theorem observe (h : e.SameButSecrets e') {i i' : Incident} (hi : i.SameButSecrets i') :
    (e.observe i).1.SameButSecrets (e'.observe i').1 ∧ (e'.observe i').2 = (e.observe i).2 := by
  have hrecord := h.history.record hi
  have haction := Policy.decide_congr hi e.policy e.breaker.active
  have hlogged := Event.ofIncident_congr hi e.redactor
  have hsame := h.same
  generalize e'.history = history at hsame hrecord
  subst hsame
  have hhalt : ({ e with history := history.record i' } : Executor).halt i' =
      ({ (Executor.halt { e with history := e.history.record i } i).1 with history := history.record i' },
        (Executor.halt { e with history := e.history.record i } i).2) := by
    rw [hi.same]
    rfl
  unfold Executor.observe
  dsimp only
  rw [haction, hlogged, hhalt]
  split
  · exact ⟨⟨rfl, hrecord⟩, rfl⟩
  · exact ⟨⟨rfl, hrecord⟩, rfl⟩

theorem giveUp (h : e.SameButSecrets e') (hsecure : e.redactor = ⟨true⟩) (now : Nat) {i i' : Incident}
    (hi : i.SameButSecrets i') (action : Action) :
    (e.giveUp now i action).1.SameButSecrets (e'.giveUp now i' action).1 ∧
      (e'.giveUp now i' action).2 = (e.giveUp now i action).2 := by
  obtain ⟨hsame, hhistory⟩ := h
  generalize e'.history = history at hsame hhistory
  subst hsame
  unfold Executor.giveUp
  dsimp only
  rw [hsecure]
  split
  · exact ⟨⟨rfl, hhistory.recordEscalation⟩, congrArg (List.cons · []) (Event.ofEscalation_congr hi _)⟩
  · exact ⟨⟨rfl, hhistory⟩, rfl⟩

end Executor.SameButSecrets

namespace Run.SameButSecrets

variable {run run' : Run}

theorem operation_eq (h : run.SameButSecrets run') : run'.operation = run.operation := by rw [h.same]

theorem attempt_eq (h : run.SameButSecrets run') : run'.attempt = run.attempt := by rw [h.same]

theorem advance (h : run.SameButSecrets run') (action : Action) :
    (Executor.advance run action).SameButSecrets (Executor.advance run' action) := by
  refine ⟨?_, h.params.merge _⟩
  rw [h.same]
  rfl

end Run.SameButSecrets

namespace Session

/-- The two sessions agree but for secrets in what has been recorded. -/
structure SameButSecrets (s s' : Session) : Prop where
  same : s' = s.withHistory s'.executor.history
  history : s.executor.history.SameButSecrets s'.executor.history

namespace SameButSecrets

variable {s s' : Session}

theorem refl (s : Session) : s.SameButSecrets s := ⟨rfl, .refl _⟩

theorem executor (h : s.SameButSecrets s') : s.executor.SameButSecrets s'.executor :=
  ⟨congrArg Session.executor h.same, h.history⟩

theorem now_eq (h : s.SameButSecrets s') : s'.now = s.now := by
  rw [h.same]
  rfl

theorem log_eq (h : s.SameButSecrets s') : s'.log = s.log := by
  rw [h.same]
  rfl

/-- Whatever reads no history and records nothing keeps the agreement. -/
theorem of_withHistory {t t' : Session} (h : s.SameButSecrets s') (ht' : t' = t.withHistory s'.executor.history)
    (ht : t.executor.history = s.executor.history) : t.SameButSecrets t' := by
  subst ht'
  refine ⟨rfl, ?_⟩
  rw [ht]
  exact h.history

theorem sideEffects (h : s.SameButSecrets s') (effects : List SideEffect) :
    (effects.foldl sideEffect s).SameButSecrets (effects.foldl sideEffect s') := by
  refine h.of_withHistory ?_ (s.sideEffects_sameBooks effects).history
  conv_lhs => rw [h.same]
  exact s.sideEffects_withHistory _ effects

theorem sleepAmong (h : s.SameButSecrets s') (deadline : Option Nat) (ms : Nat) (others : List (Nat × SideEffect)) :
    (s.sleepAmong deadline ms others).1.SameButSecrets (s'.sleepAmong deadline ms others).1 ∧
      (s'.sleepAmong deadline ms others).2 = (s.sleepAmong deadline ms others).2 := by
  have hcommutes := s.sleepAmong_withHistory s'.executor.history deadline ms others
  rw [← h.same] at hcommutes
  refine ⟨h.of_withHistory ?_ (s.sleepAmong_sameBooks deadline ms others).history, ?_⟩
  · rw [hcommutes]
  · rw [hcommutes]

/-- Executors that agree are taken over with the same events. -/
theorem taken (h : s.SameButSecrets s') {e e' : Executor} {events events' : List Event}
    (he : e.SameButSecrets e') (hevents : events' = events) :
    ({ s with executor := e }.emit events).SameButSecrets ({ s' with executor := e' }.emit events') := by
  refine ⟨?_, he.history⟩
  rw [h.same, hevents]
  show Session.emit { s with executor := e' } events =
    Session.emit { s with executor := { e with history := e'.history } } events
  rw [← he.same]

end SameButSecrets

/-! ## Attempts -/

/-- The two attempts agree but for secrets. -/
structure Attempt.SameButSecrets (a a' : Attempt) : Prop where
  begun : a.begun.SameButSecrets a'.begun
  run : a.run.SameButSecrets a'.run
  step : a'.step = a.step
  answered : a.answered.SameButSecrets a'.answered

namespace Attempt.SameButSecrets

variable {a a' : Attempt}

theorem incident (h : a.SameButSecrets a') (failure : Failure) :
    (a.incident failure).SameButSecrets (a'.incident failure) := h.answered.executor.incident h.run failure

theorem action_eq (h : a.SameButSecrets a') (failure : Failure) : a'.action failure = a.action failure := by
  unfold Attempt.action
  rw [Policy.decide_congr (h.incident failure), h.answered.executor.same]

theorem goesOn_iff (h : a.SameButSecrets a') (limit : Nat) (failure : Failure) :
    a'.goesOn limit failure ↔ a.goesOn limit failure := by
  unfold Attempt.goesOn
  rw [h.action_eq, h.run.attempt_eq]

theorem observed (h : a.SameButSecrets a') (failure : Failure) :
    (a.observed failure).SameButSecrets (a'.observed failure) := by
  obtain ⟨hexecutor, hsame⟩ := h.answered.executor.observe (h.incident failure)
  exact h.answered.taken hexecutor (congrArg Prod.fst hsame)

theorem givenUp (h : a.SameButSecrets a') (hsecure : a.answered.executor.redactor = ⟨true⟩) (failure : Failure) :
    (a.givenUp failure).SameButSecrets (a'.givenUp failure) := by
  have hobserved := h.observed failure
  have hredactor : (a.observed failure).executor.redactor = ⟨true⟩ := by
    rw [(a.observed_rules failure).redactor, hsecure]
  obtain ⟨hexecutor, hevents⟩ := hobserved.executor.giveUp hredactor (a.observed failure).now
    (h.incident failure) (a.action failure)
  have hgivenUp : a'.givenUp failure =
      let ended := (a'.observed failure).executor.giveUp (a.observed failure).now (a'.incident failure)
        (a.action failure)
      Session.emit { a'.observed failure with executor := ended.1 } ended.2 := by
    rw [← hobserved.now_eq, ← h.action_eq]
    rfl
  rw [hgivenUp]
  exact hobserved.taken hexecutor hevents

theorem succeeded (h : a.SameButSecrets a') : a.succeeded.SameButSecrets a'.succeeded := by
  have hevents : ([] : List Event) = [] := rfl
  exact h.answered.taken h.answered.executor.succeed hevents

theorem times_eq (h : a.SameButSecrets a') : [a'.call].map (·.time) = [a.call].map (·.time) :=
  congrArg (List.cons · []) h.begun.now_eq

end Attempt.SameButSecrets

/-! ## Runs -/

variable {deadline : Option Nat} {limit : Nat} {s s' t : Session} {run run' : Run} {script : CallScript}
  {attempts : List Attempt} {calls : List Call} {outcome : RunOutcome}

/-- To the next attempt of a run there is one of the other run. -/
theorem Answers.sameButSecrets {a : Attempt} (h : Answers deadline s run script a) (hs : s.SameButSecrets s')
    (hrun : run.SameButSecrets run') : ∃ a', Answers deadline s' run' script a' ∧ a.SameButSecrets a' := by
  obtain ⟨woken, hsleep, hanswered⟩ := h.answered
  obtain ⟨hwoken, hwakes⟩ := hs.sleepAmong deadline a.step.takes a.step.during
  rw [hsleep] at hwoken hwakes
  refine ⟨⟨s', run', a.step, a.step.side.foldl sideEffect (s'.sleepAmong deadline a.step.takes a.step.during).1⟩,
    ⟨rfl, rfl, h.step, _, Prod.ext rfl hwakes, rfl⟩, ?_, ?_, rfl, ?_⟩
  · rw [h.begun]
    exact hs
  · rw [h.run]
    exact hrun
  · rw [hanswered]
    exact hwoken.sideEffects a.step.side

/-- A run goes through the same rules as one that differs from it in secrets only. -/
theorem Unfolds.sameButSecrets (h : Unfolds deadline limit s run script attempts t calls outcome)
    (hsecure : s.executor.redactor = ⟨true⟩) (hs : s.SameButSecrets s') (hrun : run.SameButSecrets run') :
    ∃ attempts' t' calls', Unfolds deadline limit s' run' script attempts' t' calls' outcome ∧
      t.SameButSecrets t' ∧ calls'.map (·.time) = calls.map (·.time) := by
  induction h generalizing s' run' with
  | @dropped s run script woken hsleep =>
    obtain ⟨hwoken, hwakes⟩ := hs.sleepAmong deadline script.next.1.takes script.next.1.during
    rw [hsleep] at hwoken hwakes
    exact ⟨_, _, _, .dropped (Prod.ext rfl hwakes), hwoken, by rw [List.map_singleton, List.map_singleton, hs.now_eq]⟩
  | succeeded hanswers hresult =>
    obtain ⟨a', hanswers', ha⟩ := hanswers.sameButSecrets hs hrun
    rw [← ha.step] at hresult
    exact ⟨_, _, _, .succeeded hanswers' hresult, ha.succeeded, ha.times_eq⟩
  | @gaveUp s run script a failure hanswers hresult hends =>
    obtain ⟨a', hanswers', ha⟩ := hanswers.sameButSecrets hs hrun
    rw [← ha.step] at hresult
    rw [← ha.goesOn_iff] at hends
    have hredactor : a.answered.executor.redactor = ⟨true⟩ := by
      rw [hanswers.sameBooks.redactor, hsecure]
    have hgaveUp := Unfolds.gaveUp hanswers' hresult hends
    rw [ha.action_eq, hrun.operation_eq, hrun.attempt_eq] at hgaveUp
    exact ⟨_, _, _, hgaveUp, ha.givenUp hredactor failure, ha.times_eq⟩
  | @droppedWaiting s run script a failure woken hanswers hresult hgoes hsleep =>
    obtain ⟨a', hanswers', ha⟩ := hanswers.sameButSecrets hs hrun
    rw [← ha.step] at hresult
    rw [← ha.goesOn_iff] at hgoes
    obtain ⟨hwoken, hwakes⟩ :=
      (ha.observed failure).sleepAmong deadline (a.action failure).delay.millisUp a.step.between
    rw [hsleep] at hwoken hwakes
    rw [← ha.action_eq, ← ha.step] at hwoken hwakes
    exact ⟨_, _, _, .droppedWaiting hanswers' hresult hgoes (Prod.ext rfl hwakes), hwoken,
      ha.times_eq⟩
  | @retried s run script a failure woken rest t calls outcome hanswers hresult hgoes hsleep hrest ih =>
    obtain ⟨a', hanswers', ha⟩ := hanswers.sameButSecrets hs hrun
    rw [← ha.step] at hresult
    rw [← ha.goesOn_iff] at hgoes
    have hbooks := sleepAmong_sameBooks (a.observed failure) deadline (a.action failure).delay.millisUp a.step.between
    obtain ⟨hwoken, hwakes⟩ :=
      (ha.observed failure).sleepAmong deadline (a.action failure).delay.millisUp a.step.between
    rw [hsleep] at hwoken hwakes hbooks
    have hredactor : woken.executor.redactor = ⟨true⟩ := by
      rw [hbooks.redactor, (a.observed_rules failure).redactor, hanswers.sameBooks.redactor, hsecure]
    obtain ⟨attempts', t', calls', hrest', ht, htimes⟩ := ih hredactor hwoken (hrun.advance (a.action failure))
    rw [← ha.action_eq, ← ha.step] at hwakes hrest'
    exact ⟨_, t', _, .retried hanswers' hresult hgoes (Prod.ext rfl hwakes) hrest', ht,
      congrArg₂ (· ++ ·) ha.times_eq htimes⟩

/-- **Secrets make no difference.** With redaction on, let two runs of the same operation with the same script begin
in sessions that agree but for secrets, say in the same session, and with parameters that agree but for what stands
under sensitive keys, at any depth. They end alike, with as many calls at the same times. The events of the one are
those of the other, with the parameters that an escalation shows, and so are the summaries afterwards. The sessions
they end in agree again, so that the same is true of whatever is run next. -/
theorem run_sameButSecrets (hsecure : s.executor.redactor = ⟨true⟩) (hs : s.SameButSecrets s') (deadline : Option Nat)
    (request : RunRequest) {params : Fields} (hparams : request.params.SameButSecrets params) :
    let (t, calls, outcome) := s.run deadline request
    let (t', calls', outcome') := s'.run deadline { request with params }
    outcome' = outcome ∧ calls'.length = calls.length ∧ calls'.map (·.time) = calls.map (·.time) ∧
      t'.log = t.log ∧
      t'.executor.history.summary t'.executor.redactor = t.executor.history.summary t.executor.redactor ∧
      t.SameButSecrets t' := by
  -- What the second run does, told by the calls and the end of the first.
  suffices h : ∃ t' calls', s'.run deadline { request with params } = (t', calls', (s.run deadline request).2.2) ∧
      calls'.map (·.time) = (s.run deadline request).2.1.map (·.time) ∧
      (s.run deadline request).1.SameButSecrets t' by
    obtain ⟨t', calls', hrun, htimes, ht⟩ := h
    have hrules := (s.run_moves deadline request).stages.rules
    generalize s.run deadline request = first at *
    obtain ⟨t, calls, outcome⟩ := first
    have hredactor : t.executor.redactor = ⟨true⟩ := by rw [hrules.redactor, hsecure]
    have hlength : calls'.length = calls.length := by simpa using congrArg List.length htimes
    have hsummary : t'.executor.history.summary t'.executor.redactor =
        t.executor.history.summary t.executor.redactor := by
      rw [ht.executor.same, hredactor]
      exact ht.history.summary_eq
    rw [hrun]
    exact ⟨rfl, hlength, htimes, ht.log_eq, hsummary, ht⟩
  have hsame := hs.executor.same
  cases hactive : s.executor.breaker.active with
  | true =>
    have hactive' : s'.executor.breaker.active = true := by rw [hsame, hactive]
    rw [(run_active hactive deadline request).1, (run_active hactive' deadline _).1]
    exact ⟨s', [], rfl, rfl, hs⟩
  | false =>
    have hactive' : s'.executor.breaker.active = false := by rw [hsame, hactive]
    have hrun : (⟨request.operation, request.params, 0⟩ : Run).SameButSecrets ⟨request.operation, params, 0⟩ :=
      ⟨rfl, hparams⟩
    have h := run_unfolds hactive deadline request
    obtain ⟨_, t', calls', h', ht, htimes⟩ := h.sameButSecrets hsecure hs hrun
    refine ⟨t', calls', ?_, htimes, ht⟩
    rw [run_eq hactive', ← h'.runCalls_eq, hsame, maxAttempts_eq]

/-- A transfer that is signed with a key, and with seeds in the wallet, and fails beyond recovery. -/
def signed (key : String) (seeds : List Json) : RunRequest :=
  ⟨"transfer", [("amount", .ofNat 3), ("private_key", .text key), ("wallet", .object [("seed_phrase", .array seeds)])],
    ⟨[], { takes := 10, side := [], result := .error (.tagged .sdk "fatal: not signed") }⟩, none⟩

theorem signed_sameButSecrets (key key' : String) (seeds seeds' : List Json) :
    (signed key seeds).params.SameButSecrets (signed key' seeds').params :=
  .field (.refl _) (.secret (by decide +kernel)
    (.field (.object (.secret (by decide +kernel) .nil)) .nil))

/-- Whatever the key and the seeds are, the transfer leaves the events of the one with the key `alpha` and no seeds:
the failure and the escalation. -/
theorem run_sameButSecrets_signed :
    idle.executor.redactor = ⟨true⟩ ∧ (idle.run none (signed "alpha" [])).1.log.length = 2 ∧
      ∀ key seeds, (idle.run none (signed key seeds)).1.log = (idle.run none (signed "alpha" [])).1.log := by
  refine ⟨rfl, by decide +kernel, fun key seeds => ?_⟩
  obtain ⟨-, -, -, hlog, -⟩ := run_sameButSecrets rfl (.refl idle) none (signed "alpha" [])
    (signed_sameButSecrets "alpha" key [] seeds)
  exact hlog

end Session

end Failsafe
