import Failsafe.Proofs.Session.Chronicle
import Mathlib.Logic.Relation

/-!
# What a session goes through

Whatever is asked of a session, it goes through moves of a few kinds (`Session.Move`): the clock, the hooks and the
loops go on, which leaves no record; the breaker changes; the executor takes note of a failure, gives up or is
resumed; an operation on the registry runs to its end. The first half of a report is a move of its own, since the
second half may never come (`Session.Stage`).

A relation that goes along with the moves that are no steps of runs goes along with everything but runs
(`ThroughWork`), and so with every command that asks for no run. From this and from `run_moves` it follows that every
command goes through stages (`perform_moves`, `played_stages`). What each kind of move keeps is thereby kept by every
command, whatever its hooks, its loops and all the others do meanwhile.
-/

namespace Failsafe

namespace Session

/-- From `s` to `s'` nothing was recorded. -/
structure Beside (s s' : Session) : Prop where
  executor : s'.executor = s.executor
  registry : s'.registry = s.registry
  log : s'.log = s.log
  panicked : s.panicked = true → s'.panicked = true

/-- What a session goes through at one time. -/
inductive Move : Session → Session → Prop
  | beside {s s' : Session} (h : s.Beside s') : Move s s'
  | breaker (s : Session) (breaker : Breaker) : Move s { s with executor := { s.executor with breaker } }
  | resumed (s : Session) : Move s (s.sideEffect .resume)
  | observed (s : Session) (incident : Incident) :
    Move s ({ s with executor := (s.executor.observe incident).1 }.emit (s.executor.observe incident).2.1)
  | gaveUp (s : Session) (incident : Incident) (action : Action) :
    Move s ({ s with executor := (s.executor.giveUp s.now incident action).1 }.emit
      (s.executor.giveUp s.now incident action).2)
  | tended {s : Session} {registry : Registry} {events : List Event} (h : s.registry.Tended registry events) :
    Move s (s.withRegistry registry events)

/-- The same with the first halves of reports. -/
inductive Stage : Session → Session → Prop
  | move {s s' : Session} (h : s.Move s') : Stage s s'
  | begun {s : Session} {registry : Registry} (h : s.registry.Altered registry) : Stage s { s with registry }

/-- One move after the other. -/
def Moves : Session → Session → Prop := Relation.ReflTransGen Move

def Stages : Session → Session → Prop := Relation.ReflTransGen Stage

variable {s s' s'' : Session}

theorem Move.moves (h : s.Move s') : s.Moves s' := .single h

theorem Moves.refl (s : Session) : s.Moves s := Relation.ReflTransGen.refl

theorem Moves.trans (h : s.Moves s') (h' : s'.Moves s'') : s.Moves s'' := Relation.ReflTransGen.trans h h'

theorem Beside.moves (h : s.Beside s') : s.Moves s' := (Move.beside h).moves

theorem Moves.stages (h : s.Moves s') : s.Stages s' := Relation.ReflTransGen.mono (fun _ _ => Stage.move) _ _ h

theorem Stages.trans (h : s.Stages s') (h' : s'.Stages s'') : s.Stages s'' := Relation.ReflTransGen.trans h h'

/-- What every stage keeps is kept by any number of them. -/
theorem Stages.induct {P : Session → Prop} (hstage : ∀ {s s'}, s.Stage s' → P s → P s') (h : s.Stages s')
    (hs : P s) : P s' := by
  induction h with
  | refl => exact hs
  | tail _ hstep ih => exact hstage hstep ih

theorem Stage.names (h : s.Stage s') : s.registry.names ⊆ s'.registry.names := by
  cases h with
  | begun h => exact h.names
  | move h =>
    cases h with
    | beside h => rw [h.registry]; exact List.Subset.refl _
    | tended h => exact h.names
    | _ => exact List.Subset.refl _

/-- Nobody changes the rules of the executor. -/
theorem Stage.rules (h : s.Stage s') : s.executor.SameRules s'.executor := by
  cases h with
  | begun h => exact ⟨rfl, rfl, rfl⟩
  | move h =>
    cases h with
    | beside h => rw [h.executor]; exact ⟨rfl, rfl, rfl⟩
    | observed incident => exact Executor.observe_rules _ incident
    | gaveUp incident action => exact Executor.giveUp_rules _ _ incident action
    | _ => exact ⟨rfl, rfl, rfl⟩

theorem Stage.panicked (h : s.Stage s') (hs : s.panicked = true) : s'.panicked = true := by
  cases h with
  | begun h => exact hs
  | move h =>
    cases h with
    | beside h => exact h.panicked hs
    | _ => exact hs

/-- Names stay in use. -/
theorem Stages.names {name : String} (h : s.Stages s') (hname : name ∈ s.registry.names) : name ∈ s'.registry.names :=
  h.induct (P := fun s => name ∈ s.registry.names) (fun hstage hmem => hstage.names hmem) hname

theorem Stages.rules (h : s.Stages s') : s.executor.SameRules s'.executor := by
  induction h with
  | refl => exact ⟨rfl, rfl, rfl⟩
  | tail _ hstage ih => exact ih.trans hstage.rules

theorem Stages.panicked (h : s.Stages s') (hs : s.panicked = true) : s'.panicked = true :=
  h.induct (P := fun s => s.panicked = true) Stage.panicked hs

/-! ## Along everything but runs -/

/-- The relation of a session to what becomes of it goes along with what leaves no record, with changes of the breaker
and with operations on the registry. -/
structure ThroughWork (R : Session → Session → Prop) : Prop where
  refl : ∀ s, R s s
  trans : ∀ {s s' s''}, R s s' → R s' s'' → R s s''
  beside : ∀ {s s'}, s.Beside s' → R s s'
  breaker : ∀ (s : Session) (breaker : Breaker), R s { s with executor := { s.executor with breaker } }
  tended : ∀ {s : Session} {registry : Registry} {events : List Event}, s.registry.Tended registry events →
    R s (s.withRegistry registry events)

namespace ThroughWork

variable {R : Session → Session → Prop} (h : ThroughWork R) (s : Session)
include h

theorem throughHooks : ThroughHooks R where
  refl := h.refl
  trans := h.trans
  hooks := fun _ _ => h.beside ⟨rfl, rfl, rfl, id⟩
  governor := fun _ _ => h.beside ⟨rfl, rfl, rfl, id⟩
  tended := h.tended

theorem throughTime : ThroughTime R where
  refl := h.refl
  trans := h.trans
  happen := fun s _ what => by
    cases what with
    | cooldown => exact h.breaker s _
    | task i =>
      obtain ⟨done, hdone, tasks, hrun⟩ := h.throughHooks.runTask s i
      have htask : R s { done with tasks } := h.trans hdone (h.beside ⟨rfl, rfl, rfl, id⟩)
      rw [← hrun] at htask
      exact htask
  clock := fun _ _ => h.beside ⟨rfl, rfl, rfl, id⟩

theorem throughBackground : ThroughBackground R where
  toThroughHooks := h.throughHooks
  sleep := h.throughTime.sleep
  startTask := fun _ _ _ _ => h.beside ⟨rfl, rfl, rfl, id⟩
  panicked := fun _ _ hpanicked => h.beside ⟨rfl, rfl, rfl, hpanicked⟩

/-- A command that asks for no run, reports no failure and does not resume trading. -/
theorem perform {command : Command} (hrequest : command.request? = none) (hreports : command.reports = false)
    (hresume : command ≠ .resume) : R s (s.perform command).1 := by
  cases htouches : command.touchesBreaker with
  | false => exact h.throughBackground.perform s hrequest hreports hresume htouches
  | true =>
    cases command with
    | breaker command => exact h.breaker s _
    | shutdown =>
      have hloops : ({ s with executor := { s.executor with breaker := s.executor.breaker.shutdown } } : Session).Beside
          s.shutdown := ⟨rfl, rfl, rfl, id⟩
      exact h.trans (h.breaker s s.executor.breaker.shutdown) (h.beside hloops)
    | _ => exact absurd htouches (by simp [Command.touchesBreaker])

end ThroughWork

theorem throughWork_moves : ThroughWork Moves where
  refl := Moves.refl
  trans := Moves.trans
  beside := Beside.moves
  breaker := fun s breaker => (Move.breaker s breaker).moves
  tended := fun h => (Move.tended h).moves

theorem throughWork_stages : ThroughWork Stages where
  refl := fun s => (Moves.refl s).stages
  trans := Stages.trans
  beside := fun h => h.moves.stages
  breaker := fun s breaker => (Move.breaker s breaker).moves.stages
  tended := fun h => (Move.tended h).moves.stages

variable (s)

theorem settle_moves (time : Nat) : s.Moves (s.settle time) := throughWork_moves.throughTime.settle s time

theorem sleep_moves (deadline : Option Nat) (ms : Nat) : s.Moves (s.sleep deadline ms).1 :=
  throughWork_moves.throughTime.sleep s deadline ms

theorem sideEffect_moves (effect : SideEffect) : s.Moves (s.sideEffect effect) := by
  cases effect with
  | resume => exact (Move.resumed s).moves
  | _ => exact (Move.breaker s _).moves

theorem throughSleep_moves : ThroughSleep Moves where
  refl := Moves.refl
  trans := Moves.trans
  sleep := sleep_moves
  sideEffect := sideEffect_moves

/-! ## Runs -/

theorem run_moves (deadline : Option Nat) (request : RunRequest) : s.Moves (s.run deadline request).1 :=
  throughSleep_moves.run (fun a failure => (Move.observed a.answered (a.incident failure)).moves)
    (fun a failure => (Move.gaveUp (a.observed failure) (a.incident failure) (a.action failure)).moves)
    (fun a => (Move.breaker a.answered _).moves) s deadline request

variable {s}

/-! ## Reports -/

/-- How a report ends. -/
inductive ReportEnds (deadline : Option Nat) (s : Session) :
    Session × Ending (Except Error (Degradation ComponentStatus)) → Prop
  /-- The name is not in use, and nothing has happened. -/
  | refused (e : Error) : ReportEnds deadline s (s, .finished (.error e))
  /-- There is a result, once the restart has taken its time. -/
  | concluded {half : Session} {registry : Registry} {events : List Event} {d : Degradation ComponentStatus}
    (hhalf : s.Stages half) (hconcluded : half.registry.Concluded registry events d) :
    ReportEnds deadline s (half.withRegistry registry events, .finished (.ok d))
  /-- The deadline came first, or the handler panicked. -/
  | dropped {half : Session} (hhalf : s.Stages half) (hwhy : deadline = none → half.panicked = true) :
    ReportEnds deadline s (half, .cancelled)

theorem report_ends (s : Session) (deadline : Option Nat) (name error : String) (isCritical : Bool) :
    s.ReportEnds deadline (s.report deadline name error isCritical) := by
  rw [report_eq]
  cases hbegin : s.registry.beginReport name error isCritical with
  | error e => exact .refused e
  | ok begun =>
    obtain ⟨registry, reported⟩ := begun
    have haltered := Registry.beginReport_altered hbegin
    have hbegun : s.Stages { s with registry } := Relation.ReflTransGen.single (.begun haltered)
    have hname := Registry.mem_names_of_beginReport hbegin
    -- The name stays in use, so the second half does not fail either.
    have hended : ∀ (half : Session) (result : Except String Unit), s.Stages half →
        s.ReportEnds deadline (half.concluded (half.registry.endReport name result)) := by
      intro half result hhalf
      obtain ⟨c, hc⟩ := Registry.mem_names_iff.mp (hhalf.names hname)
      obtain ⟨registry, events, d, hend, -⟩ := Registry.endReport_ok hc result
      rw [hend]
      exact .concluded hhalf (Registry.endReport_concluded hend)
    cases reported with
    | settled outcome =>
      obtain ⟨c, hc⟩ := Registry.mem_names_iff.mp (haltered.names hname)
      have hconclude := Registry.concludeReport_ok hc outcome
      dsimp only
      rw [hconclude]
      exact .concluded hbegun (Registry.concludeReport_concluded (.refl _) hconclude)
    | restarting handler =>
      cases handler with
      | none => exact hended { s with registry } (.ok ()) hbegun
      | some hook =>
        have hcalled := hbegun.trans (throughWork_stages.throughHooks.callHook { s with registry } hook)
        dsimp only
        generalize callHook { s with registry } hook = called at hcalled ⊢
        obtain ⟨called, step⟩ := called
        have hslept := hcalled.trans (called.sleep_moves deadline step.takes).stages
        dsimp only
        rcases hsleep : called.sleep deadline step.takes with ⟨woken, _ | _⟩
        · rw [hsleep] at hslept
          refine .dropped hslept ?_
          rintro rfl
          exact absurd (congrArg Prod.snd hsleep) (by simp [sleep_none])
        · rw [hsleep] at hslept
          dsimp only
          split
          · exact hended woken (.ok ()) hslept
          · next text _ => exact hended woken (.error text) hslept
          · have hpanicked : woken.Moves { woken with panicked := true } :=
              Beside.moves ⟨rfl, rfl, rfl, fun _ => rfl⟩
            exact .dropped (hslept.trans hpanicked.stages) fun _ => rfl

theorem report_stages (s : Session) (deadline : Option Nat) (name error : String) (isCritical : Bool) :
    s.Stages (s.report deadline name error isCritical).1 :=
  throughWork_stages.throughBackground.report s (fun h => Relation.ReflTransGen.single (.begun h)) deadline name error isCritical

theorem runFor_stages (s : Session) (deadline : Option Nat) (component : String) (request : RunRequest) :
    s.Stages (s.runFor deadline component request).1 := by
  have hrun := (s.run_moves deadline request).stages
  rcases s.runFor_cases deadline component request with hended | ⟨error, isCritical, hreport⟩
  · rw [hended]
    exact hrun
  · rw [hreport]
    exact hrun.trans (report_stages _ deadline component error isCritical)

/-! ## Commands -/

/-- A command that reports no failure is nothing but moves. -/
theorem perform_moves (s : Session) {command : Command} (h : command.reports = false) :
    s.Moves (s.perform command).1 := by
  cases hrequest : command.request? with
  | none =>
    by_cases hresume : command = .resume
    · rw [hresume]
      exact (Move.resumed s).moves
    · exact throughWork_moves.perform s hrequest h hresume
  | some request =>
    cases command with
    | run asked => exact s.run_moves (asked.deadline s.now) asked
    | runFor component asked => exact absurd h (by simp [Command.reports])
    | _ => exact absurd hrequest (by simp [Command.request?])

/-- And every command goes through stages, with everything that is due after it. -/
theorem played_stages (s : Session) (command : Command) : s.Stages (s.played command) := by
  suffices h : s.Stages (s.perform command).1 from
    h.trans (settle_moves _ (s.perform command).1.now).stages
  cases hreports : command.reports with
  | false => exact (s.perform_moves hreports).stages
  | true =>
    cases command with
    | report name error isCritical =>
      rw [s.perform_report]
      exact s.report_stages none name error isCritical
    | runFor component request => exact s.runFor_stages (request.deadline s.now) component request
    | _ => exact absurd hreports (by simp [Command.reports])

end Session

end Failsafe
