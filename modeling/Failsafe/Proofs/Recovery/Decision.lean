import Failsafe.Recovery.Policy

/-!
# Decisions hang together

An action has five parts, and not every combination makes sense: an action that stops trading must not try again, and a
delay or an adjusted parameter is of no use without a next attempt. `Action.Coherent` says what the parts owe each
other. The constructors of actions keep to it, and every decision is made by one of them, for a reason that
`Policy.decide_cases` tells. So decisions are coherent whatever the incident says, and they escalate or stop trading
for one reason each (`Policy.decide_coherent`).
-/

namespace Failsafe

namespace Action

/-- What the parts of an action owe each other. -/
structure Coherent (action : Action) : Prop where
  stops : action.stopTrading = true → action.shouldRetry = false
  adjusts : action.adjustments.isSome = true → action.shouldRetry = true
  ends : action.shouldRetry = false → action.delay = .zero ∧ action.adjustments = none
  escalates : action.escalate = true → action.shouldRetry = false ∧ action.stopTrading = false

theorem coherent_retryAfter (delay : Duration) : (retryAfter delay).Coherent :=
  ⟨nofun, nofun, nofun, nofun⟩

theorem coherent_adjusting (delay : Duration) (key : String) (factor : Float) :
    ((retryAfter delay).adjusting key factor).Coherent :=
  ⟨nofun, fun _ => rfl, nofun, nofun⟩

theorem coherent_giveUp : giveUp.Coherent := ⟨nofun, nofun, fun _ => ⟨rfl, rfl⟩, nofun⟩

theorem coherent_halt : halt.Coherent := ⟨fun _ => rfl, nofun, fun _ => ⟨rfl, rfl⟩, nofun⟩

theorem coherent_escalation : escalation.Coherent := ⟨nofun, nofun, fun _ => ⟨rfl, rfl⟩, fun _ => ⟨rfl, rfl⟩⟩

/-- An action that goes on with the operation or gives it up, and does nothing else. -/
inductive IsPlain : Action → Prop
  | giveUp : IsPlain .giveUp
  | retryAfter (delay : Duration) : IsPlain (.retryAfter delay)
  | adjusting (delay : Duration) (key : String) (factor : Float) :
    IsPlain ((Action.retryAfter delay).adjusting key factor)

namespace IsPlain

variable {action : Action}

theorem coherent (h : action.IsPlain) : action.Coherent := by
  cases h with
  | giveUp => exact coherent_giveUp
  | retryAfter delay => exact coherent_retryAfter delay
  | adjusting delay key factor => exact coherent_adjusting delay key factor

theorem quiet (h : action.IsPlain) : action.escalate = false ∧ action.stopTrading = false := by
  cases h <;> exact ⟨rfl, rfl⟩

end IsPlain

end Action

namespace Policy

variable (policy : Policy) (incident : Incident)

/-- The categories of last resort: what a failure is when its text does not tell. -/
def lastResorts : List Category := [.unknown, .externalSdk, .transactionFailed]

/-- The incident is one that somebody has to look at. -/
def Alarming (incident : Incident) : Prop := incident.severity = .critical ∧ incident.category ∈ lastResorts

theorem decide_lastResort {incident : Incident} (h : incident.category ∈ lastResorts) :
    policy.decide incident false =
      if incident.severity = .critical then .escalation
      else .retryAfter (policy.baseBackoff incident incident.backoffMultiplier) := by
  unfold decide
  rw [if_neg Bool.false_ne_true]
  simp only [lastResorts, List.mem_cons, List.not_mem_nil, or_false] at h
  rcases h with h | h | h <;> rw [h]

/-- The decisions there are, and what stopping and escalating are for. -/
theorem decide_cases (active : Bool) :
    (policy.decide incident active = .halt ∧ (active = true ∨ incident.category = .insufficientBalance)) ∨
    (policy.decide incident active = .escalation ∧ active = false ∧ Alarming incident) ∨
    ((policy.decide incident active).IsPlain ∧
      active = false ∧ incident.category ≠ .insufficientBalance ∧ ¬ Alarming incident) := by
  cases active with
  | true => exact .inl ⟨rfl, .inl rfl⟩
  | false =>
    by_cases hlast : incident.category ∈ lastResorts
    · rw [decide_lastResort policy hlast]
      by_cases hcritical : incident.severity = .critical
      · rw [if_pos hcritical]
        exact .inr (.inl ⟨rfl, rfl, hcritical, hlast⟩)
      · rw [if_neg hcritical]
        refine .inr (.inr ⟨.retryAfter _, rfl, ?_, fun halarming => hcritical halarming.1⟩)
        intro hbalance
        rw [hbalance] at hlast
        exact absurd hlast (by decide)
    · have hcalm : ¬ Alarming incident := fun halarming => hlast halarming.2
      unfold decide
      rw [if_neg Bool.false_ne_true]
      cases hcategory : incident.category with
      | insufficientBalance => exact .inl ⟨rfl, .inr rfl⟩
      | rpcConnection => exact .inr (.inr ⟨.retryAfter _, rfl, nofun, hcalm⟩)
      | rpcTimeout => exact .inr (.inr ⟨.retryAfter _, rfl, nofun, hcalm⟩)
      | rpcRateLimit => exact .inr (.inr ⟨.retryAfter _, rfl, nofun, hcalm⟩)
      | networkCongestion => exact .inr (.inr ⟨.adjusting _ _ _, rfl, nofun, hcalm⟩)
      | poolLiquidity => exact .inr (.inr ⟨.giveUp, rfl, nofun, hcalm⟩)
      | slippageExceeded =>
        dsimp only
        split
        · exact .inr (.inr ⟨.giveUp, rfl, nofun, hcalm⟩)
        · exact .inr (.inr ⟨.adjusting _ _ _, rfl, nofun, hcalm⟩)
      | unknown | externalSdk | transactionFailed =>
        rw [hcategory] at hlast
        exact absurd hlast (by decide)

theorem coherent_decide (active : Bool) : (policy.decide incident active).Coherent := by
  rcases decide_cases policy incident active with ⟨h, -⟩ | ⟨h, -⟩ | ⟨h, -⟩
  · rw [h]
    exact Action.coherent_halt
  · rw [h]
    exact Action.coherent_escalation
  · exact h.coherent

theorem escalate_iff (active : Bool) :
    (policy.decide incident active).escalate = true ↔ active = false ∧ Alarming incident := by
  rcases decide_cases policy incident active with ⟨h, hreason⟩ | ⟨h, hreason⟩ | ⟨h, hactive, -, hcalm⟩
  · rw [h]
    refine iff_of_false nofun ?_
    rintro ⟨hactive, -, hlast⟩
    rcases hreason with hreason | hreason
    · rw [hactive] at hreason
      exact absurd hreason nofun
    · rw [hreason] at hlast
      exact absurd hlast (by decide)
  · rw [h]
    exact iff_of_true rfl hreason
  · rw [h.quiet.1]
    exact iff_of_false nofun fun halarming => hcalm halarming.2

theorem stopTrading_iff (active : Bool) :
    (policy.decide incident active).stopTrading = true ↔
      active = true ∨ incident.category = .insufficientBalance := by
  rcases decide_cases policy incident active with ⟨h, hreason⟩ | ⟨h, hactive, -, hlast⟩ | ⟨h, hactive, hbalance, -⟩
  · rw [h]
    exact iff_of_true rfl hreason
  · rw [h, hactive]
    refine iff_of_false nofun ?_
    rintro (hreason | hreason)
    · exact absurd hreason nofun
    · rw [hreason] at hlast
      exact absurd hlast (by decide)
  · rw [h.quiet.2, hactive]
    exact iff_of_false nofun fun hreason => hreason.elim nofun hbalance

/-- **Decisions hang together.** Whatever the incident, the longest delay and the breaker say: an action that stops
trading does not try again; one that adjusts parameters tries again; one that does not try again has neither a delay nor
adjustments; one that escalates does neither try again nor stop trading. An action escalates exactly for a critical
incident of a category of last resort while the breaker is not active. The action is the halt when the breaker is
active, and otherwise it stops trading exactly for a balance that does not suffice. -/
theorem decide_coherent (policy : Policy) (incident : Incident) :
    (∀ active, (policy.decide incident active).Coherent) ∧
    (∀ active, (policy.decide incident active).escalate = true ↔
      active = false ∧ incident.severity = .critical ∧
        (incident.category = .unknown ∨ incident.category = .externalSdk ∨ incident.category = .transactionFailed)) ∧
    policy.decide incident true = .halt ∧
    ((policy.decide incident false).stopTrading = true ↔ incident.category = .insufficientBalance) := by
  refine ⟨coherent_decide policy incident, fun active => ?_, rfl, ?_⟩
  · rw [escalate_iff]
    simp [Alarming, lastResorts]
  · rw [stopTrading_iff]
    simp

end Policy

end Failsafe
