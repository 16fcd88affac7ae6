import Failsafe.Proofs.Fields
import Failsafe.Proofs.Session.FailFast

/-!
# The parameters of a call

A run begins with the parameters that the caller has given, and it calls with the parameters it has. Only the decision
about a failure changes them, and only when another call follows: congestion sets the priority fee, slippage sets the
tolerance. `adjusted?` says what has been set after some failures.

One retry sets what its own failure asks for (`Attempt.get?_advance`). What is set is a constant, so that it makes no
difference how often, or in which order, it is set (`adjusted?_concat`). The incident of a failure takes the parameters
from the run before they are adjusted (`Attempt.data_incident`).
-/

namespace Failsafe

open Executor

/-- What a parameter has been set to after some failures, if it has been set. -/
def adjusted? (incidents : List Incident) (key : String) : Option Json :=
  if key = priorityFeeKey ∧ ∃ incident ∈ incidents, incident.category = .networkCongestion then
    some (.ofFloat priorityFeeFactor)
  else if key = slippageKey ∧ ∃ incident ∈ incidents, incident.category = .slippageExceeded then
    some (.ofFloat slippageFactor)
  else none

theorem slippageKey_ne : slippageKey ≠ priorityFeeKey := by decide

theorem adjusted?_nil (key : String) : adjusted? [] key = none := by simp [adjusted?]

theorem adjusted?_other {key : String} (hfee : key ≠ priorityFeeKey) (hslippage : key ≠ slippageKey)
    (incidents : List Incident) : adjusted? incidents key = none := by simp [adjusted?, hfee, hslippage]

theorem adjusted?_slippage_of_mem {incidents : List Incident} {incident : Incident} (hmem : incident ∈ incidents)
    (hcategory : incident.category = .slippageExceeded) :
    adjusted? incidents slippageKey = some (.ofFloat slippageFactor) := by
  unfold adjusted?
  rw [if_neg fun h => slippageKey_ne h.1, if_pos ⟨rfl, incident, hmem, hcategory⟩]

theorem adjusted?_slippage_of_forall {incidents : List Incident}
    (h : ∀ incident ∈ incidents, incident.category ≠ .slippageExceeded) : adjusted? incidents slippageKey = none := by
  unfold adjusted?
  rw [if_neg fun h => slippageKey_ne h.1, if_neg fun ⟨_, incident, hmem, hcategory⟩ => h incident hmem hcategory]

/-- One failure more sets what it asks for and leaves what was set before. -/
theorem adjusted?_concat (incidents : List Incident) (incident : Incident) (key : String) :
    adjusted? (incidents ++ [incident]) key = (adjusted? [incident] key).or (adjusted? incidents key) := by
  by_cases hfee : key = priorityFeeKey
  · have hslippage : key ≠ slippageKey := fun h => slippageKey_ne (h.symm.trans hfee)
    by_cases hcategory : incident.category = .networkCongestion <;>
      simp [adjusted?, hfee, slippageKey_ne.symm, hcategory]
  · by_cases hslippage : key = slippageKey
    · by_cases hcategory : incident.category = .slippageExceeded <;>
        simp [adjusted?, hslippage, slippageKey_ne, hcategory]
    · simp [adjusted?_other hfee hslippage]

namespace Session

/-! ## One attempt -/

namespace Attempt

variable {a : Attempt} {failure : Failure} {limit : Nat}

/-- The incident carries the parameters of the call, if there were any. -/
theorem data_incident (a : Attempt) (failure : Failure) :
    (a.incident failure).data = if a.call.params.isEmpty then none else some a.call.params := rfl

/-- What a decision to try again adjusts. -/
theorem adjustments_of_goesOn (h : a.goesOn limit failure) :
    (a.action failure).adjustments =
      match (a.incident failure).category with
      | .networkCongestion => some [(priorityFeeKey, .ofFloat priorityFeeFactor)]
      | .slippageExceeded => some [(slippageKey, .ofFloat slippageFactor)]
      | _ => none := by
  have hretry := h.1
  have hinactive := a.inactive_of_goesOn h
  unfold action Policy.decide at hretry ⊢
  rw [if_neg (by simp [hinactive])] at hretry ⊢
  cases hcategory : (a.incident failure).category with
  | slippageExceeded =>
    rw [hcategory] at hretry
    dsimp only at hretry ⊢
    split at hretry
    next => exact absurd hretry (by simp [Action.giveUp])
    next hwidened =>
      rw [if_neg hwidened]
      rfl
  | networkCongestion => rfl
  | rpcConnection => rfl
  | rpcTimeout => rfl
  | rpcRateLimit => rfl
  | insufficientBalance => rfl
  | poolLiquidity => rfl
  | unknown =>
    dsimp only
    split <;> rfl
  | externalSdk =>
    dsimp only
    split <;> rfl
  | transactionFailed =>
    dsimp only
    split <;> rfl

/-- A retry sets what its failure asks for and leaves every other parameter alone. -/
theorem get?_advance (h : a.goesOn limit failure) (key : String) :
    (Executor.advance a.run (a.action failure)).params.get? key =
      (adjusted? [a.incident failure] key).or (a.run.params.get? key) := by
  unfold Executor.advance
  dsimp only
  rw [adjustments_of_goesOn h]
  cases hcategory : (a.incident failure).category with
  | networkCongestion =>
    show (a.run.params.set priorityFeeKey (.ofFloat priorityFeeFactor)).get? key = _
    rw [Fields.get?_set]
    by_cases hkey : priorityFeeKey = key
    · simp [adjusted?, hcategory, hkey.symm]
    · simp [adjusted?, hcategory, hkey, Ne.symm hkey]
  | slippageExceeded =>
    show (a.run.params.set slippageKey (.ofFloat slippageFactor)).get? key = _
    rw [Fields.get?_set]
    by_cases hkey : slippageKey = key
    · simp [adjusted?, hcategory, hkey.symm, slippageKey_ne]
    · simp [adjusted?, hcategory, hkey, Ne.symm hkey]
  | _ =>
    show a.run.params.get? key = _
    simp [adjusted?, hcategory]

end Attempt

/-! ## Attempts and calls -/

variable {deadline : Option Nat} {limit : Nat} {s s' : Session} {run : Run} {script : CallScript}
  {attempts : List Attempt} {calls : List Call} {outcome : RunOutcome}

/-- The attempts of a run are numbered, and each has made the call with its number. -/
theorem Unfolds.call_of_attempt (h : Unfolds deadline limit s run script attempts s' calls outcome) :
    ∀ i a, attempts[i]? = some a → a.run.attempt = run.attempt + i ∧ calls[i]? = some a.call := by
  have hsingle : ∀ {a : Attempt} {s : Session} {run : Run} {script : CallScript}, Answers deadline s run script a →
      ∀ i b, [a][i]? = some b → b.run.attempt = run.attempt + i ∧ [a.call][i]? = some b.call := by
    intro a s run script hanswers i b hb
    obtain ⟨rfl, rfl⟩ : i = 0 ∧ a = b := by simpa [List.getElem?_singleton] using hb
    exact ⟨by rw [hanswers.run]; rfl, rfl⟩
  induction h with
  | dropped hsleep => exact fun i a ha => absurd ha (by simp)
  | succeeded hanswers hresult => exact hsingle hanswers
  | gaveUp hanswers hresult hends => exact hsingle hanswers
  | droppedWaiting hanswers hresult hgoes hsleep => exact hsingle hanswers
  | @retried s run script first failure next rest s'' calls outcome hanswers hresult hgoes hsleep hrest ih =>
    intro i b hb
    cases i with
    | zero =>
      obtain rfl : first = b := by simpa using hb
      exact ⟨by rw [hanswers.run]; rfl, rfl⟩
    | succ i =>
      rw [List.getElem?_cons_succ] at hb ⊢
      obtain ⟨hattempt, hcall⟩ := ih i b hb
      refine ⟨?_, hcall⟩
      rw [hattempt]
      simp only [Executor.advance]
      omega

/-- A call that is followed by another one has failed and was retried, with the parameters adjusted. -/
theorem Unfolds.next_call (h : Unfolds deadline limit s run script attempts s' calls outcome) :
    (∃ first, calls[0]? = some first ∧ first.params = run.params) ∧
    ∀ i next, calls[i + 1]? = some next → ∃ a failure, attempts[i]? = some a ∧ a.step.result = .error failure ∧
      a.goesOn limit failure ∧ next.params = (Executor.advance a.run (a.action failure)).params := by
  induction h with
  | @dropped s run script s' hsleep => exact ⟨⟨_, rfl, rfl⟩, fun i next hnext => absurd hnext (by simp)⟩
  | succeeded hanswers hresult =>
    exact ⟨⟨_, rfl, by rw [← hanswers.run]; rfl⟩, fun i next hnext => absurd hnext (by simp)⟩
  | gaveUp hanswers hresult hends =>
    exact ⟨⟨_, rfl, by rw [← hanswers.run]; rfl⟩, fun i next hnext => absurd hnext (by simp)⟩
  | droppedWaiting hanswers hresult hgoes hsleep =>
    exact ⟨⟨_, rfl, by rw [← hanswers.run]; rfl⟩, fun i next hnext => absurd hnext (by simp)⟩
  | @retried s run script first failure _ rest s'' calls outcome hanswers hresult hgoes hsleep hrest ih =>
    refine ⟨⟨_, rfl, by rw [← hanswers.run]; rfl⟩, fun i next hnext => ?_⟩
    rw [List.getElem?_cons_succ] at hnext
    cases i with
    | zero =>
      obtain ⟨second, hsecond, hparams⟩ := ih.1
      obtain rfl := Option.some.inj (hsecond.symm.trans hnext)
      exact ⟨first, failure, rfl, hresult, hgoes, by rw [hparams, hanswers.run]⟩
    | succ i =>
      obtain ⟨a, failure', ha, hrest'⟩ := ih.2 i next hnext
      exact ⟨a, failure', by rwa [List.getElem?_cons_succ], hrest'⟩

/-- After an attempt that is to be retried comes another call, unless the run is dropped while it waits. -/
theorem Unfolds.called_again (h : Unfolds deadline limit s run script attempts s' calls outcome) :
    ∀ i a failure, attempts[i]? = some a → a.step.result = .error failure → a.goesOn limit failure →
      i + 1 < calls.length ∨ outcome = .cancelled ∧ calls.length = i + 1 := by
  have hsingle : ∀ {a b : Attempt} {i : Nat}, [a][i]? = some b → i = 0 ∧ a = b := by
    intro a b i hb
    simpa [List.getElem?_singleton] using hb
  induction h with
  | dropped hsleep => exact fun i a failure ha => absurd ha (by simp)
  | succeeded hanswers hresult =>
    intro i b failure hb hfailed
    obtain ⟨-, rfl⟩ := hsingle hb
    rw [hresult] at hfailed
    exact absurd hfailed (by simp)
  | gaveUp hanswers hresult hends =>
    intro i b failure hb hfailed hgoes
    obtain ⟨-, rfl⟩ := hsingle hb
    obtain rfl := Except.error.inj (hresult.symm.trans hfailed)
    exact absurd hgoes hends
  | droppedWaiting hanswers hresult hgoes hsleep =>
    intro i b failure hb _ _
    obtain ⟨rfl, -⟩ := hsingle hb
    exact .inr ⟨rfl, rfl⟩
  | @retried s run script first failure' _ rest s'' calls outcome hanswers hresult hgoes hsleep hrest ih =>
    intro i b failure hb hfailed hgoes'
    cases i with
    | zero =>
      left
      obtain ⟨⟨second, hsecond, -⟩, -⟩ := hrest.next_call
      have hlt := (List.getElem?_eq_some_iff.mp hsecond).1
      rw [List.length_cons]
      omega
    | succ i =>
      -- The attempt is one of the rest of the run.
      rw [List.getElem?_cons_succ] at hb
      rcases ih i b failure hb hfailed hgoes' with hlt | ⟨houtcome, hlength⟩
      · left
        rw [List.length_cons]
        omega
      · right
        refine ⟨houtcome, ?_⟩
        rw [List.length_cons, hlength]

/-- A call has the parameters of the run, but for what the failures before it have set. -/
theorem Unfolds.get?_params (h : Unfolds deadline limit s run script attempts s' calls outcome) {j : Nat} {call : Call}
    (hcall : calls[j]? = some call) (key : String) :
    call.params.get? key =
      (adjusted? ((attempts.filterMap Attempt.incident?).take j) key).or (run.params.get? key) := by
  induction j generalizing call with
  | zero =>
    obtain ⟨first, hfirst, hparams⟩ := h.next_call.1
    obtain rfl := Option.some.inj (hfirst.symm.trans hcall)
    rw [List.take_zero, adjusted?_nil, Option.none_or, hparams]
  | succ j ih =>
    obtain ⟨a, failure, ha, hfailed, hgoes, hparams⟩ := h.next_call.2 j call hcall
    have hincident : (attempts.filterMap Attempt.incident?)[j]? = some (a.incident failure) := by
      rw [h.incidents, ha]
      exact a.incident?_of_error hfailed
    have hbefore : a.run.params.get? key = _ := ih (h.call_of_attempt j a ha).2
    rw [hparams, Attempt.get?_advance hgoes, hbefore, List.take_add_one, hincident, Option.toList_some,
      adjusted?_concat, Option.or_assoc]

/-! ## Runs -/

/-- **The parameters of a call.** In every run, whatever its calls do and whatever the caller has given:

* what is recorded is, in order, the incidents of the failed attempts: the history counts them, and shows them last when
  it is asked for recent incidents;
* a call has the parameters that the caller has given, but for the priority fee, which is set to one and the same value
  as soon as a failure before it was congestion, and the tolerance, which is set as soon as one was slippage;
* the incident of the attempt with the same number as a call carries exactly the parameters of the call, or none if there
  were none. -/
theorem run_params (s : Session) (deadline : Option Nat) (request : RunRequest) :
    let calls := (s.run deadline request).2.1
    ∃ incidents : List Incident,
      (s.run deadline request).1.executor.history =
        (let recorded := incidents.foldl History.record s.executor.history
         if (s.run deadline request).2.2.escalates then recorded.recordEscalation else recorded) ∧
      s.executor.history.Gains incidents (s.run deadline request).1.executor.history ∧
      (∀ i : Nat, incidents[i]? = (s.attempts deadline request)[i]?.bind Attempt.incident?) ∧
      ∀ (j : Nat) (call : Call), calls[j]? = some call →
        (∀ key, call.params.get? key =
          if key = priorityFeeKey ∧ ∃ incident ∈ incidents.take j, incident.category = .networkCongestion then
            some (.ofFloat 1.5)
          else if key = slippageKey ∧ ∃ incident ∈ incidents.take j, incident.category = .slippageExceeded then
            some (.ofFloat 1.2)
          else request.params.get? key) ∧
        ∀ incident : Incident, incidents[j]? = some incident →
          incident.data = if call.params.isEmpty then none else some call.params := by
  cases hbegin : s.executor.breaker.active with
  | true =>
    obtain ⟨hrun, hattempts⟩ := run_active hbegin deadline request
    rw [hrun, hattempts]
    exact ⟨[], rfl, .refl _, fun i => rfl, fun j call hcall => absurd hcall (by simp)⟩
  | false =>
    have h := run_unfolds hbegin deadline request
    refine ⟨(s.attempts deadline request).filterMap Attempt.incident?, h.history, h.gains, h.incidents, ?_⟩
    intro j call hcall
    refine ⟨fun key => ?_, fun incident hincident => ?_⟩
    · rw [h.get?_params hcall key]
      unfold adjusted? priorityFeeFactor slippageFactor
      split
      · rfl
      · split <;> rfl
    · rw [h.incidents, Option.bind_eq_some_iff] at hincident
      obtain ⟨a, ha, hincident⟩ := hincident
      obtain ⟨failure, rfl⟩ := a.eq_incident hincident
      obtain rfl := Option.some.inj ((h.call_of_attempt j a ha).2.symm.trans hcall)
      exact a.data_incident failure

/-- An operation that meets with congestion once. -/
def congested : RunRequest :=
  ⟨"transfer", [("size", .ofNat 2)],
    ⟨[{ takes := 0, side := [], result := .error (.plain "congestion") }],
      { takes := 0, side := [], result := .ok .null }⟩, none⟩

/-- The first attempt of that operation in a session that has seen nothing yet. -/
def congestedAttempt : Attempt :=
  ⟨idle, ⟨"transfer", congested.params, 0⟩, congested.script.next.1, (idle.sleepAmong none 0 []).1⟩

theorem category_congestedAttempt :
    (congestedAttempt.incident (.plain "congestion")).category = .networkCongestion := by
  show (classify .other "congestion").1 = .networkCongestion
  decide +kernel

theorem goesOn_congestedAttempt : congestedAttempt.goesOn 3 (.plain "congestion") := by
  have hinactive : congestedAttempt.answered.executor.breaker.active = false := rfl
  refine ⟨?_, by decide⟩
  unfold Attempt.action Policy.decide
  rw [hinactive, category_congestedAttempt]
  rfl

/-- The operation is called again with the priority fee raised and its own parameter untouched; the incident in between
tells what it was called with before. -/
theorem run_params_congested :
    ∃ call incident, (idle.run none congested).2.1[1]? = some call ∧
      congestedAttempt.incident? = some incident ∧ incident.data = some [("size", .ofNat 2)] ∧
      call.params.get? priorityFeeKey = some (.ofFloat 1.5) ∧ call.params.get? "size" = some (.ofNat 2) := by
  have h := run_unfolds (rfl : idle.executor.breaker.active = false) none congested
  have hattempt : (idle.attempts none congested)[0]? = some congestedAttempt :=
    attemptsFrom_zero ⟨rfl, rfl, rfl, _, rfl, rfl⟩
  have hincident : congestedAttempt.incident? = some (congestedAttempt.incident (.plain "congestion")) :=
    congestedAttempt.incident?_of_error rfl
  obtain ⟨incidents, -, -, hincidents, hcalls⟩ := run_params idle none congested
  have hfirst : incidents[0]? = some (congestedAttempt.incident (.plain "congestion")) := by
    rw [hincidents, hattempt]
    exact hincident
  -- The first call is followed by another one, since nobody drops the run.
  have hfollowed : 1 < (idle.run none congested).2.1.length := by
    rcases h.called_again 0 congestedAttempt _ hattempt rfl goesOn_congestedAttempt with hlt | ⟨hdropped, -⟩
    · exact hlt
    · exact absurd hdropped (h.completes (by decide)).ne_cancelled
  have hsecond := List.getElem?_eq_getElem hfollowed
  obtain ⟨hparams, -⟩ := hcalls 1 _ hsecond
  refine ⟨_, _, hsecond, hincident, ?_, ?_, ?_⟩
  · exact (hcalls 0 _ (h.call_of_attempt 0 _ hattempt).2).2 _ hfirst
  · have htake : (incidents.take 1)[0]? = some (congestedAttempt.incident (.plain "congestion")) := by
      rw [List.getElem?_take, if_pos Nat.one_pos, hfirst]
    have hmem := List.mem_of_getElem? htake
    rw [hparams, if_pos ⟨rfl, _, hmem, category_congestedAttempt⟩]
  · rw [hparams, if_neg (by simp [priorityFeeKey]), if_neg (by simp [slippageKey])]
    rfl

end Session

end Failsafe
