import Failsafe.Proofs.Breaker.Totals
import Failsafe.Proofs.Session.Attempt

/-!
# What others do during a run

While a run sleeps, timers of the breaker wake and others act on the executor. `Executor.Undergoes` says that this
was all, and which acts there were: those that come before the sleeper wakes or is dropped (`Session.actsAmong`). An
executor that undergoes some acts has counted as many failures and successes as there were among them, no more
activations than failures, and its halt flag is set only if it was set before.

A relation between sessions that keeps book of the acts goes along with a sleep among others and with a call if it goes
along with each sleep and each act (`Session.ThroughActs`).
-/

namespace Failsafe

namespace Executor

/-- What becomes of an executor when others act on it. -/
def suffer (e : Executor) (time : Nat) : SideEffect → Executor
  | .breakerFailure => { e with breaker := e.breaker.recordFailure time }
  | .breakerSuccess => { e with breaker := e.breaker.recordSuccess }
  | .breakerReset => { e with breaker := e.breaker.reset }
  | .breakerShutdown => { e with breaker := e.breaker.shutdown }
  | .resume => { e with halted := false }

/-- What the executor `e` can become while others act on it, in the order of their acts, and timers of its breaker
wake. -/
inductive Undergoes (e : Executor) : List SideEffect → Executor → Prop
  | refl : Undergoes e [] e
  | woken {acts e'} (h : Undergoes e acts e') (time : Nat) :
    Undergoes e acts { e' with breaker := e'.breaker.expire time }
  | acted {acts e'} (h : Undergoes e acts e') (time : Nat) (act : SideEffect) :
    Undergoes e (acts ++ [act]) (e'.suffer time act)

variable {e e' e'' : Executor} {acts acts' : List SideEffect}

theorem Undergoes.trans (h : e.Undergoes acts e') (h' : e'.Undergoes acts' e'') :
    e.Undergoes (acts ++ acts') e'' := by
  induction h' with
  | refl =>
    rw [List.append_nil]
    exact h
  | woken _ time ih => exact ih.woken time
  | acted _ time act ih =>
    rw [← List.append_assoc]
    exact ih.acted time act

theorem Aged.undergoes (h : Aged e e') : e.Undergoes [] e' := by
  obtain ⟨times, rfl⟩ := h
  suffices h : ∀ b, e.Undergoes [] { e with breaker := b } →
      e.Undergoes [] { e with breaker := times.foldl Breaker.expire b } from h e.breaker .refl
  induction times with
  | nil => exact fun _ h => h
  | cons time times ih => exact fun b h => ih (b.expire time) (h.woken time)

/-- What others do has nothing to do with the history. -/
theorem Undergoes.withHistory (h : e.Undergoes acts e') (history : History) :
    Undergoes { e with history } acts { e' with history } := by
  induction h with
  | refl => exact .refl
  | woken _ time ih => exact ih.woken time
  | acted _ time act ih =>
    have hacted := ih.acted time act
    cases act <;> exact hacted

/-! ## Counts -/

theorem Undergoes.totalFailures (h : e.Undergoes acts e') :
    e'.breaker.totalFailures = e.breaker.totalFailures + acts.count .breakerFailure := by
  induction h with
  | refl => rfl
  | woken _ time ih => exact (Breaker.expire_sameTotals _ time).failures.trans ih
  | @acted acts e' _ time act ih =>
    rw [List.count_append, ← Nat.add_assoc, ← ih]
    cases act with
    | breakerFailure => exact (Breaker.recordFailure_totals e'.breaker time).failures
    | breakerSuccess => rfl
    | breakerReset => exact (Breaker.reset_sameTotals e'.breaker).failures
    | breakerShutdown => exact (Breaker.callOff_sameTotals e'.breaker).failures
    | resume => rfl

theorem Undergoes.totalSuccesses (h : e.Undergoes acts e') :
    e'.breaker.totalSuccesses = e.breaker.totalSuccesses + acts.count .breakerSuccess := by
  induction h with
  | refl => rfl
  | woken _ time ih => exact (Breaker.expire_sameTotals _ time).successes.trans ih
  | @acted acts e' _ time act ih =>
    rw [List.count_append, ← Nat.add_assoc, ← ih]
    cases act with
    | breakerFailure => exact (Breaker.recordFailure_totals e'.breaker time).successes
    | breakerSuccess => rfl
    | breakerReset => exact (Breaker.reset_sameTotals e'.breaker).successes
    | breakerShutdown => exact (Breaker.callOff_sameTotals e'.breaker).successes
    | resume => rfl

/-- Whatever activates the breaker is a failure that somebody records. -/
theorem Undergoes.activations (h : e.Undergoes acts e') :
    e.breaker.activations ≤ e'.breaker.activations ∧
      e'.breaker.activations ≤ e.breaker.activations + acts.count .breakerFailure := by
  induction h with
  | refl => exact ⟨Nat.le_refl _, Nat.le_refl _⟩
  | @woken acts e' _ time ih =>
    show e.breaker.activations ≤ (e'.breaker.expire time).activations ∧ (e'.breaker.expire time).activations ≤ _
    rw [Breaker.expire_activations]
    exact ih
  | @acted acts e' _ time act ih =>
    rw [List.count_append]
    cases act with
    | breakerFailure =>
      obtain ⟨hle, hbound⟩ := Breaker.recordFailure_activations e'.breaker time
      show e.breaker.activations ≤ (e'.breaker.recordFailure time).activations ∧
        (e'.breaker.recordFailure time).activations ≤ e.breaker.activations + (acts.count .breakerFailure + 1)
      omega
    | breakerSuccess => exact ih
    | breakerReset =>
      show e.breaker.activations ≤ e'.breaker.reset.activations ∧ e'.breaker.reset.activations ≤ _
      rw [Breaker.reset_activations]
      exact ih
    | breakerShutdown =>
      show e.breaker.activations ≤ e'.breaker.callOff.activations ∧ e'.breaker.callOff.activations ≤ _
      rw [Breaker.callOff_activations]
      exact ih
    | resume => exact ih

theorem Undergoes.halted (h : e.Undergoes acts e') : e'.halted = (e.halted && !acts.contains .resume) := by
  induction h with
  | refl => simp
  | woken _ time ih => exact ih
  | @acted acts e' _ time act ih =>
    rw [List.contains_append, Bool.not_or, ← Bool.and_assoc, ← ih]
    cases act with
    | resume => simp [suffer]
    | _ => simp [suffer]

end Executor

open Executor

namespace Session

/-! ## Acts -/

/-- What others do while somebody sleeps, up to the moment he wakes or is dropped. -/
def actsAmong (s : Session) (deadline : Option Nat) (ms : Nat) : List (Nat × SideEffect) → List SideEffect
  | [] => []
  | (gap, effect) :: rest =>
    let ms := s.clock.lasts s.now ms
    if ms < gap then []
    else
      match s.sleep deadline gap with
      | (_, false) => []
      | (s, true) => effect :: (s.sideEffect effect).actsAmong deadline (ms - gap) rest

/-- The relation of a session to what becomes of it goes along with sleeps and, act by act, with what others do. -/
structure ThroughActs (R : Session → List SideEffect → Session → Prop) : Prop where
  refl : ∀ s, R s [] s
  trans : ∀ {s s' s'' acts acts'}, R s acts s' → R s' acts' s'' → R s (acts ++ acts') s''
  sleep : ∀ s deadline ms, R s [] (s.sleep deadline ms).1
  sideEffect : ∀ s effect, R s [effect] (s.sideEffect effect)

namespace Attempt

variable (a : Attempt) (deadline : Option Nat)

/-- What others do from the beginning of the call to its answer. -/
def acts : List SideEffect := a.begun.actsAmong deadline a.step.takes a.step.during ++ a.step.side

end Attempt

namespace ThroughActs

variable {R : Session → List SideEffect → Session → Prop} (h : ThroughActs R)
include h

theorem sideEffects (s : Session) (effects : List SideEffect) : R s effects (effects.foldl Session.sideEffect s) := by
  induction effects generalizing s with
  | nil => exact h.refl s
  | cons effect rest ih => exact h.trans (h.sideEffect s effect) (ih _)

theorem sleepAmong (s : Session) (deadline : Option Nat) (ms : Nat) (others : List (Nat × SideEffect)) :
    R s (s.actsAmong deadline ms others) (s.sleepAmong deadline ms others).1 := by
  induction others generalizing s ms with
  | nil => exact h.sleep s deadline ms
  | cons act rest ih =>
    obtain ⟨gap, effect⟩ := act
    unfold actsAmong Session.sleepAmong
    dsimp only
    split
    · exact h.sleep s deadline _
    · have hgap := h.sleep s deadline gap
      rcases hsleep : s.sleep deadline gap with ⟨woken, _ | _⟩
      · rw [hsleep] at hgap
        exact hgap
      · rw [hsleep] at hgap
        exact h.trans hgap (h.trans (h.sideEffect woken effect) (ih _ _))

theorem answers {deadline : Option Nat} {s : Session} {run : Run} {script : CallScript} {a : Attempt}
    (hanswers : Answers deadline s run script a) : R s (a.acts deadline) a.answered := by
  obtain ⟨woken, hsleep, hanswered⟩ := hanswers.answered
  have hcall := h.sleepAmong s deadline a.step.takes a.step.during
  rw [hsleep] at hcall
  unfold Attempt.acts
  rw [hanswers.begun, hanswered]
  exact h.trans hcall (h.sideEffects woken a.step.side)

end ThroughActs

theorem throughActs_undergoes : ThroughActs fun s acts s' => s.executor.Undergoes acts s'.executor where
  refl := fun _ => .refl
  trans := Undergoes.trans
  sleep := fun s deadline ms => (s.sleep_aged deadline ms).undergoes
  sideEffect := fun s effect => by
    have hacted := (Undergoes.refl : s.executor.Undergoes [] s.executor).acted s.now effect
    cases effect <;> exact hacted

theorem sleepAmong_undergoes (s : Session) (deadline : Option Nat) (ms : Nat) (others : List (Nat × SideEffect)) :
    s.executor.Undergoes (s.actsAmong deadline ms others) (s.sleepAmong deadline ms others).1.executor :=
  throughActs_undergoes.sleepAmong s deadline ms others

theorem Answers.undergoes {deadline : Option Nat} {s : Session} {run : Run} {script : CallScript} {a : Attempt}
    (h : Answers deadline s run script a) : s.executor.Undergoes (a.acts deadline) a.answered.executor :=
  throughActs_undergoes.answers h

end Session

end Failsafe
