import Failsafe.Proofs.Redaction.Tree
import Failsafe.Proofs.Session.Moves
import Failsafe.Proofs.Session.Opening
import Mathlib.Data.List.Induction

/-!
# Nothing secret gets out

A failure comes with a message, and its incident with the parameters of the call. Both are recorded as they are. They
are shown in three places, the event of a failed attempt, the event of an escalation and the summary, and each of these
redacts what it shows for itself (`redacted_ofIncident`, `redacted_ofEscalation`, `redacted_recentError`).

That no other event shows anything of a failure, and that redaction stays on, is seen from the moves of a session
(`Stage.discreet`). So it holds of everything that a session ever logs, and of every summary that it answers with.
-/

namespace Failsafe

open Redaction

/-- Nothing secret shows in what an event tells of a failure. -/
def Event.Redacted : Event → Prop
  | .operationFailed report => isSensitive report.message = false
  | .escalation report => isSensitive report.message = false ∧ ∀ data ∈ report.data, (Json.object data).Redacted
  | .tradingHalted _ _ _ | .tradingResumed | .stateChanged _ _ => True

/-- Nothing secret shows in what a summary tells of a failure. -/
structure RecentError.Redacted (e : RecentError) : Prop where
  message : isSensitive e.message = false
  data : ∀ data ∈ e.data, (Json.object data).Redacted

/-- The recent errors that a reply shows. -/
def Reply.recentErrors : Reply → List RecentError
  | .summary s => s.recent
  | .statistics s => s.errors.recent
  | _ => []

theorem Event.redacted_of_not_ofRun {e : Event} (h : e.ofRun = false) : e.Redacted := by
  cases e with
  | operationFailed report => exact absurd h (by simp [Event.ofRun])
  | escalation report => exact absurd h (by simp [Event.ofRun])
  | _ => trivial

/-! ## Where failures are shown -/

theorem Redactor.redacted_data {data : Option Fields} :
    ∀ shown ∈ data.map (Redactor.fields ⟨true⟩), (Json.object shown).Redacted := by
  intro shown hshown
  obtain ⟨fields, -, rfl⟩ := Option.mem_map.mp hshown
  exact Redactor.redacted_fields fields

theorem Event.redacted_ofIncident (incident : Incident) : (Event.ofIncident incident ⟨true⟩).Redacted :=
  isSensitive_sanitize incident.message

theorem Event.redacted_ofEscalation (incident : Incident) (reason : String) :
    (Event.ofEscalation incident ⟨true⟩ reason).Redacted :=
  ⟨isSensitive_sanitize incident.message, Redactor.redacted_data⟩

theorem Incident.redacted_recentError (incident : Incident) : (incident.recentError ⟨true⟩).Redacted :=
  ⟨isSensitive_sanitize incident.message, Redactor.redacted_data⟩

theorem History.redacted_summary (history : History) : ∀ e ∈ (history.summary ⟨true⟩).recent, e.Redacted := by
  intro e he
  obtain ⟨incident, -, rfl⟩ := List.mem_map.mp he
  exact incident.redacted_recentError

namespace Executor

variable {e : Executor}

theorem redacted_observe (h : e.redactor = ⟨true⟩) (incident : Incident) :
    ∀ event ∈ (e.observe incident).2.1, event.Redacted := by
  have hlogged : (Event.ofIncident incident e.redactor).Redacted := by
    rw [h]
    exact Event.redacted_ofIncident incident
  have hhalt : ∀ event ∈ (Executor.halt { e with history := e.history.record incident } incident).2,
      event.Redacted := by
    unfold halt
    dsimp only
    split <;> simp [Event.Redacted]
  unfold observe
  dsimp only
  split
  · exact List.forall_mem_cons.mpr ⟨hlogged, hhalt⟩
  · exact List.forall_mem_singleton.mpr hlogged

theorem redacted_giveUp (h : e.redactor = ⟨true⟩) (now : Nat) (incident : Incident) (action : Action) :
    ∀ event ∈ (e.giveUp now incident action).2, event.Redacted := by
  unfold giveUp
  dsimp only
  rw [h]
  split
  · exact List.forall_mem_singleton.mpr (Event.redacted_ofEscalation incident _)
  · exact List.forall_mem_nil _

theorem redacted_resume (e : Executor) : ∀ event ∈ e.resume.2, event.Redacted := by
  unfold resume
  dsimp only
  split <;> simp [Event.Redacted]

end Executor

namespace Session

/-- Redaction is on, and nothing secret has been logged. -/
structure Discreet (s : Session) : Prop where
  secure : s.executor.redactor = ⟨true⟩
  log : ∀ e ∈ s.log, e.Redacted

variable {s s' : Session}

/-- Whatever a session goes through, it logs nothing secret. -/
theorem Stage.discreet (h : s.Stage s') (hs : s.Discreet) : s'.Discreet := by
  have hemit : ∀ events : List Event, (∀ e ∈ events, e.Redacted) → ∀ e ∈ events.reverse ++ s.log, e.Redacted := by
    intro events hevents e he
    rcases List.mem_append.mp he with he | he
    · exact hevents e (List.mem_reverse.mp he)
    · exact hs.log e he
  refine ⟨h.rules.redactor.trans hs.secure, ?_⟩
  cases h with
  | begun h => exact hs.log
  | move h =>
    cases h with
    | beside h => rw [h.log]; exact hs.log
    | breaker breaker => exact hs.log
    | resumed => exact hemit _ s.executor.redacted_resume
    | observed incident => exact hemit _ (Executor.redacted_observe hs.secure incident)
    | gaveUp incident action => exact hemit _ (Executor.redacted_giveUp hs.secure _ incident action)
    | tended h => exact hemit _ fun e he => Event.redacted_of_not_ofRun (Event.ofRun_of_ofState (h.ofState e he))

/-! ## Chronicles -/

theorem Discreet.played (hs : s.Discreet) (command : Command) : (s.played command).Discreet :=
  (s.played_stages command).induct Stage.discreet hs

/-- Nothing secret is logged on the way to a session, nor has been in it. -/
theorem chronicle_discreet (hs : s.Discreet) (commands : List Command) :
    (s.chronicle commands).session.Discreet ∧ ∀ e ∈ (s.chronicle commands).events, e.Redacted := by
  induction commands using List.reverseRecOn with
  | nil => exact ⟨hs, List.forall_mem_nil _⟩
  | append_singleton commands command ih =>
    obtain ⟨hsession, hevents⟩ := ih
    have hplayed := hsession.played command
    rw [chronicle_concat]
    refine ⟨⟨hplayed.secure, List.forall_mem_nil _⟩, fun e he => ?_⟩
    rcases List.mem_append.mp he with he | he
    · exact hevents e he
    · exact hplayed.log e (List.mem_reverse.mp he)

/-- A summary that a command answers with shows nothing secret. -/
theorem redacted_reply (h : s.executor.redactor = ⟨true⟩) (command : Command) :
    ∀ e ∈ (s.perform command).2.recentErrors, e.Redacted := by
  have hsummary : ∀ e ∈ (s.executor.history.summary s.executor.redactor).recent, e.Redacted := by
    rw [h]
    exact s.executor.history.redacted_summary
  cases command with
  | summary => exact hsummary
  | statistics => exact hsummary
  | _ =>
    -- No other reply has errors in it; some of the replies depend on how the command ends.
    first
      | exact List.forall_mem_nil _
      | unfold perform
        dsimp only
        split <;> exact List.forall_mem_nil _

/-- **Nothing secret gets out.** In a session with redaction on, let any commands be carried out, with whatever
messages, parameters, scripts and side effects. Nothing secret shows in the events of failed attempts and of
escalations, nor in the recent errors of a summary or of the statistics that are asked for next: the messages have no
sensitive word in them, nor has any text at any depth of the parameters, and what stands under a sensitive key is the
marker. -/
theorem chronicle_redacted {settings : Settings} {clock : Clock} (hnew : new? settings clock = some s)
    (hsecure : settings.security.secureFailureMode = true) (commands : List Command) :
    (∀ e ∈ (s.chronicle commands).events, e.Redacted) ∧
      ∀ command, ∀ e ∈ ((s.chronicle commands).session.perform command).2.recentErrors, e.Redacted := by
  have hfresh := new?_fresh hnew
  have hdiscreet : s.Discreet := ⟨by rw [hfresh.redactor, hsecure], by rw [hfresh.log]; exact List.forall_mem_nil _⟩
  obtain ⟨hsession, hevents⟩ := chronicle_discreet hdiscreet commands
  exact ⟨hevents, redacted_reply hsession.secure⟩

/-- A transfer whose parameters and whose failure show secrets. -/
def spilling : RunRequest :=
  ⟨"transfer", [("private_key", .text "alpha"), ("notes", .array [.text "password=hunter2"])],
    ⟨[], { takes := 10, side := [], result := .error (.tagged .sdk "fatal: password=hunter2 refused") }⟩, none⟩

/-- The two events of the transfer and the one recent error show none of them. -/
theorem chronicle_redacted_spilling :
    ∃ s, new? .default = some s ∧ Settings.default.security.secureFailureMode = true ∧
      let c := s.chronicle [.run spilling]
      let recent := (c.session.perform .summary).2.recentErrors
      (c.events.length = 2 ∧ ∀ e ∈ c.events, e.Redacted) ∧ recent.length = 1 ∧ ∀ e ∈ recent, e.Redacted := by
  have hvalues : (new? .default).map (fun s =>
      let c := s.chronicle [.run spilling]
      (c.events.length, (c.session.perform .summary).2.recentErrors.length)) = some (2, 1) := by decide +kernel
  obtain ⟨s, hnew, hvalues⟩ := Option.map_eq_some_iff.mp hvalues
  obtain ⟨hevents, hrecent⟩ := Prod.mk.inj hvalues
  obtain ⟨hlogged, hanswered⟩ := chronicle_redacted hnew rfl [.run spilling]
  exact ⟨s, hnew, rfl, ⟨hevents, hlogged⟩, hrecent, hanswered .summary⟩

end Session

end Failsafe
