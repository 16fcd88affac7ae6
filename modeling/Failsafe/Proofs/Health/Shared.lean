import Failsafe.Health.Shared
import Failsafe.Proofs.Health.Registry

/-!
# One call to a registry in shared use

What a call does to one component: `find?_step` takes a component with the status `c.status` to the same
component with the status `SharedRegistry.after`, which depends on nothing but the call, the reports that wait,
and the component itself. A component, once registered, is always found.

And what it does to the reports that wait: `mem_waiting_step`, a report comes in only as the first half of a
report on a component that was not down, and has a handler.
-/

namespace Failsafe

/-- The report that waits, after a report on the component, for the handler that restarts it. -/
def Component.awaits (c : Component) : List WaitingReport :=
  if c.status.restarts then c.restart.toList.map (⟨c.status.name, ·⟩) else []

theorem component_of_mem_awaits {c : Component} {w : WaitingReport} (h : w ∈ c.awaits) :
    w.component = c.status.name := by
  unfold Component.awaits at h
  split at h
  · obtain ⟨handler, -, rfl⟩ := List.mem_map.mp h
    rfl
  · exact absurd h List.not_mem_nil

namespace SharedRegistry

open Registry

variable {s : SharedRegistry} {name : String} {c : Component}

/-- The status that a call leaves a registered component with. -/
def after (s : SharedRegistry) (c : Component) : RegistryCall → ComponentStatus
  | .report name error isCritical =>
    if name = c.status.name then c.afterReport (s.registry.redactor.text error) isCritical else c.status
  | .restartEnded index result =>
    if s.waiting[index]?.any (·.component = c.status.name) then
      c.status.restartEnded s.registry.redactor result
    else c.status
  | .reset name => if name = c.status.name then c.status.reset else c.status
  | .disablePriority priority reason =>
    if isActiveOf priority c then c.status.disable reason else c.status
  | .register _ _ _ | .reportDropped _ | .updateResource _ _ | .setThresholds _ _ | .setConsistent _ => c.status

theorem step_of_call {call : RegistryCall} {s' : SharedRegistry} (h : s.call call = .ok s') :
    s.step call = s' := by
  unfold step
  rw [h]

/-- A call that can fail leaves everything as it was, or does what it does when it succeeds. -/
theorem step_of_bind {α : Type} {P : SharedRegistry → Prop} {call : RegistryCall} {x : Except Error α}
    {f : α → SharedRegistry} (hcall : s.call call = x >>= fun a => .ok (f a)) (hs : P s)
    (hf : ∀ a, x = .ok a → P (f a)) : P (s.step call) := by
  unfold step
  rw [hcall]
  cases x with
  | error e => exact hs
  | ok a => exact hf a rfl

/-- A report on a registered component never fails. -/
theorem call_report (h : s.registry.find? name = some c) (error : String) (isCritical : Bool) :
    ∃ s', s.call (.report name error isCritical) = .ok s' ∧
      Updated s.registry name c (c.afterReport (s.registry.redactor.text error) isCritical) s'.registry ∧
      s'.waiting = s.waiting ++ c.awaits := by
  obtain ⟨r, hbegin, hupdated⟩ := beginReport_ok h error isCritical
  unfold Component.afterReport Component.awaits
  by_cases hrestarts : c.status.restarts = true
  · rw [Component.verdict_of_restarts hrestarts] at hbegin
    cases hhandler : c.restart with
    | none =>
      rw [hhandler] at hbegin
      obtain ⟨r', events, d, hend, hupdated'⟩ := endReport_ok hupdated.self (.ok ())
      refine ⟨s.changed r' events, ?_, ?_, ?_⟩
      · simp only [call, hbegin, hend, bind, Except.bind]
      · rw [if_pos (by simp [hrestarts])]
        exact hupdated.trans hupdated'
      · simp [changed]
    | some handler =>
      rw [hhandler] at hbegin
      refine ⟨{ s with registry := r, waiting := s.waiting ++ [⟨name, handler⟩] }, ?_, ?_, ?_⟩
      · simp only [call, hbegin, bind, Except.bind]
      · rw [if_neg (by simp)]
        exact hupdated
      · simp [hrestarts, name_of_find? h]
  · rw [Bool.not_eq_true] at hrestarts
    obtain ⟨outcome, hverdict⟩ := Component.verdict_of_not_restarts hrestarts isCritical
    rw [hverdict] at hbegin
    refine ⟨s.changed r.refresh.1 r.refresh.2, ?_, ?_, ?_⟩
    · simp only [call, hbegin, concludeReport_ok hupdated.self, bind, Except.bind]
    · rw [if_neg (by simp [hrestarts])]
      exact hupdated.refresh
    · simp [changed, hrestarts]

/-- The end of a handler never fails for a report on a registered component. -/
theorem call_restartEnded {index : Nat} {report : WaitingReport} (hwaiting : s.waiting[index]? = some report)
    (h : s.registry.find? report.component = some c) (result : Except String Unit) :
    ∃ s', s.call (.restartEnded index result) = .ok s' ∧
      Updated s.registry report.component c (c.status.restartEnded s.registry.redactor result) s'.registry ∧
      s'.waiting = s.waiting.eraseIdx index := by
  obtain ⟨r, events, d, hend, hupdated⟩ := endReport_ok h result
  refine ⟨{ s.changed r events with waiting := s.waiting.eraseIdx index }, ?_, hupdated, rfl⟩
  simp only [call, hwaiting, hend, bind, Except.bind]

theorem call_reset (h : s.registry.find? name = some c) :
    ∃ s', s.call (.reset name) = .ok s' ∧ Updated s.registry name c c.status.reset s'.registry ∧
      s'.waiting = s.waiting := by
  obtain ⟨r, events, hreset, hupdated⟩ := reset_ok h
  refine ⟨s.changed r events, ?_, hupdated, rfl⟩
  simp only [call, hreset, bind, Except.bind]

theorem step_report_none (h : s.registry.find? name = none) (error : String) (isCritical : Bool) :
    s.step (.report name error isCritical) = s := by
  simp only [step, call, beginReport_none h, bind, Except.bind]

theorem step_reset_none (h : s.registry.find? name = none) : s.step (.reset name) = s := by
  simp only [step, call, reset_none h, bind, Except.bind]

theorem step_restartEnded_none {index : Nat} (h : s.waiting[index]? = none) (result : Except String Unit) :
    s.step (.restartEnded index result) = s := by
  simp only [step, call, h]

theorem step_restartEnded_unregistered {index : Nat} {report : WaitingReport}
    (hwaiting : s.waiting[index]? = some report) (h : s.registry.find? report.component = none)
    (result : Except String Unit) : s.step (.restartEnded index result) = s := by
  simp only [step, call, hwaiting, endReport_none h, bind, Except.bind]

/-! Calls about one component leave the others alone. -/

theorem find?_report_ne {name' : String} (hne : name ≠ name') (error : String) (isCritical : Bool) :
    (s.step (.report name' error isCritical)).registry.find? name = s.registry.find? name := by
  cases hother : s.registry.find? name' with
  | none => rw [step_report_none hother]
  | some c' =>
    obtain ⟨s', hcall, hupdated, -⟩ := call_report hother error isCritical
    rw [step_of_call hcall, hupdated.others name hne]

theorem find?_restartEnded_ne {index : Nat} {report : WaitingReport}
    (hwaiting : s.waiting[index]? = some report) (hne : name ≠ report.component) (result : Except String Unit) :
    (s.step (.restartEnded index result)).registry.find? name = s.registry.find? name := by
  cases hother : s.registry.find? report.component with
  | none => rw [step_restartEnded_unregistered hwaiting hother]
  | some c' =>
    obtain ⟨s', hcall, hupdated, -⟩ := call_restartEnded hwaiting hother result
    rw [step_of_call hcall, hupdated.others name hne]

theorem find?_reset_ne {name' : String} (hne : name ≠ name') :
    (s.step (.reset name')).registry.find? name = s.registry.find? name := by
  cases hother : s.registry.find? name' with
  | none => rw [step_reset_none hother]
  | some c' =>
    obtain ⟨s', hcall, hupdated, -⟩ := call_reset hother
    rw [step_of_call hcall, hupdated.others name hne]

/-- A component keeps its place, and has the status that the call leaves it with. -/
theorem find?_step (h : s.registry.find? name = some c) (call : RegistryCall) :
    (s.step call).registry.find? name = some (c.withStatus (s.after c call)) := by
  have hname := name_of_find? h
  cases call with
  | register name' priority restart =>
    refine step_of_bind (P := fun s' => s'.registry.find? name = some c) rfl h ?_
    intro registered hregister
    obtain ⟨hfree, hfind⟩ := register_ok hregister
    -- The new name was free, so it is not this one.
    have hne : name ≠ name' := by
      rintro rfl
      simp [hfree] at h
    exact (hfind name).trans ((if_neg hne).trans h)
  | report name' error isCritical =>
    simp only [after, hname]
    by_cases hne : name' = name
    · subst hne
      obtain ⟨s', hcall, hupdated, -⟩ := call_report h error isCritical
      rw [step_of_call hcall, hupdated.self, if_pos rfl]
    · rw [if_neg hne, find?_report_ne (Ne.symm hne)]
      exact h
  | restartEnded index result =>
    cases hwaiting : s.waiting[index]? with
    | none =>
      rw [step_restartEnded_none hwaiting]
      simp only [after, hwaiting]
      exact h
    | some report =>
      simp only [after, hwaiting, hname, Option.any_some, decide_eq_true_eq]
      by_cases hne : report.component = name
      · subst hne
        obtain ⟨s', hcall, hupdated, -⟩ := call_restartEnded hwaiting h result
        rw [step_of_call hcall, hupdated.self, if_pos rfl]
      · rw [if_neg hne, find?_restartEnded_ne hwaiting (Ne.symm hne)]
        exact h
  | reportDropped index => exact h
  | reset name' =>
    simp only [after, hname]
    by_cases hne : name' = name
    · subst hne
      obtain ⟨s', hcall, hupdated, -⟩ := call_reset h
      rw [step_of_call hcall, hupdated.self, if_pos rfl]
    · rw [if_neg hne, find?_reset_ne (Ne.symm hne)]
      exact h
  | disablePriority priority reason =>
    show (s.registry.disablePriority priority reason).1.find? name = _
    rw [find?_disablePriority, h]
    simp only [after, Option.map_some]
    split <;> rfl
  | updateResource kind usage => exact h
  | setThresholds kind thresholds =>
    refine step_of_bind (P := fun s' => s'.registry.find? name = some c) rfl h ?_
    intro changed hset
    exact (setThresholds_ok hset name).trans h
  | setConsistent value => exact h

/-- A name comes into use only by a registration. -/
theorem find?_step_none (h : s.registry.find? name = none) (call : RegistryCall) :
    (s.step call).registry.find? name = none ∨
      ∃ priority restart, call = .register name priority restart ∧
        (s.step call).registry.find? name = some ⟨.fresh name priority, restart⟩ := by
  cases call with
  | register name' priority restart =>
    refine step_of_bind (P := fun s' => s'.registry.find? name = none ∨ ∃ priority' restart',
      RegistryCall.register name' priority restart = .register name priority' restart' ∧
        s'.registry.find? name = some ⟨.fresh name priority', restart'⟩) rfl (.inl h) ?_
    intro registered hregister
    have hfind : registered.1.find? name = _ := (register_ok hregister).2 name
    by_cases hne : name = name'
    · subst hne
      exact .inr ⟨priority, restart, rfl, hfind.trans (if_pos rfl)⟩
    · exact .inl ((hfind.trans (if_neg hne)).trans h)
  | report name' error isCritical =>
    left
    by_cases hne : name = name'
    · subst hne
      rwa [step_report_none h]
    · rwa [find?_report_ne hne]
  | restartEnded index result =>
    left
    cases hwaiting : s.waiting[index]? with
    | none => rwa [step_restartEnded_none hwaiting]
    | some report =>
      by_cases hne : name = report.component
      · subst hne
        rwa [step_restartEnded_unregistered hwaiting h]
      · rwa [find?_restartEnded_ne hwaiting hne]
  | reportDropped index => exact .inl h
  | reset name' =>
    left
    by_cases hne : name = name'
    · subst hne
      rwa [step_reset_none h]
    · rwa [find?_reset_ne hne]
  | disablePriority priority reason =>
    left
    show (s.registry.disablePriority priority reason).1.find? name = none
    rw [find?_disablePriority, h]
    rfl
  | updateResource kind usage => exact .inl h
  | setThresholds kind thresholds =>
    refine step_of_bind (P := fun s' => s'.registry.find? name = none ∨ _) rfl (.inl h) ?_
    exact fun _ hset => .inl ((setThresholds_ok hset name).trans h)
  | setConsistent value => exact .inl h

/-- A component that is found after a call has just been registered, or was there and has the status that the call leaves
it with. -/
theorem find?_of_step {call : RegistryCall} (h : (s.step call).registry.find? name = some c) :
    (s.registry.find? name = none ∧
      ∃ priority restart, call = .register name priority restart ∧ c = ⟨.fresh name priority, restart⟩) ∨
      ∃ c', s.registry.find? name = some c' ∧ c = c'.withStatus (s.after c' call) := by
  cases hbefore : s.registry.find? name with
  | none =>
    rcases find?_step_none hbefore call with hnone | ⟨priority, restart, hcall, hfresh⟩
    · exact absurd (hnone.symm.trans h) (by simp)
    · exact .inl ⟨rfl, priority, restart, hcall, Option.some.inj (h.symm.trans hfresh)⟩
  | some c' => exact .inr ⟨c', rfl, Option.some.inj (h.symm.trans (find?_step hbefore call))⟩

/-- A report that waits after a call waited before it, or is the first half of this very call. -/
theorem mem_waiting_step {w : WaitingReport} {call : RegistryCall} (h : w ∈ (s.step call).waiting) :
    w ∈ s.waiting ∨ ∃ c, s.registry.find? w.component = some c ∧ w ∈ c.awaits := by
  revert h
  cases call with
  | register name priority restart =>
    exact step_of_bind (P := fun s' => w ∈ s'.waiting → _) rfl .inl (fun _ _ => .inl)
  | report name error isCritical =>
    intro h
    cases hfind : s.registry.find? name with
    | none =>
      rw [step_report_none hfind] at h
      exact .inl h
    | some c =>
      obtain ⟨s', hcall, -, hwaiting⟩ := call_report hfind error isCritical
      rw [step_of_call hcall, hwaiting, List.mem_append] at h
      rcases h with h | h
      · exact .inl h
      · refine .inr ⟨c, ?_, h⟩
        rw [component_of_mem_awaits h, name_of_find? hfind]
        exact hfind
  | restartEnded index result =>
    cases hwaiting : s.waiting[index]? with
    | none =>
      rw [step_restartEnded_none hwaiting]
      exact .inl
    | some report =>
      refine step_of_bind (P := fun s' => w ∈ s'.waiting → _) (by simp only [call, hwaiting]; rfl) .inl ?_
      exact fun _ _ h => .inl (List.mem_of_mem_eraseIdx h)
  | reportDropped index => exact fun h => .inl (List.mem_of_mem_eraseIdx h)
  | reset name => exact step_of_bind (P := fun s' => w ∈ s'.waiting → _) rfl .inl (fun _ _ => .inl)
  | disablePriority priority reason => exact .inl
  | updateResource kind usage => exact .inl
  | setThresholds kind thresholds =>
    exact step_of_bind (P := fun s' => w ∈ s'.waiting → _) rfl .inl (fun _ _ => .inl)
  | setConsistent value => exact .inl

end SharedRegistry

end Failsafe
