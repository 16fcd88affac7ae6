import Failsafe.Health.Governor
import Failsafe.Proofs.Health.Snapshot
import Failsafe.Proofs.Redaction.Word

/-!
# What the reasons of failures give away

With redaction on, the reason kept for a component is redacted when a failure is reported. Two calls put more into it
than redacted text (`SharedRegistry.leaks`): disabling a priority keeps its reason as it is, and the failure of a
restart is told with the name of the component.

`reveals_iff` is the exact condition over all runs: a sensitive word stands in the reason of a component if and only if
the last call that wrote the reason was such a call, and what it did not redact has a sensitive word in it
(`SharedRegistry.Leaked`). This is so for every component in a snapshot, and for the status that a report hands back.
What the governor does to a registry is done by calls that do not leak (`Governor.handle_play`).
-/

namespace Failsafe

open Redaction

namespace Redaction

/-- No word stands on both sides of a character that cannot be in a word. -/
theorem holdsWord_append_cons {front rest : List Char} {c : Char} (hc : isSpelling c = false) :
    holdsWord (front ++ c :: rest) = (holdsWord front || holdsWord rest) := by
  rw [Bool.eq_iff_iff, Bool.or_eq_true, holdsWord_iff, holdsWord_iff, holdsWord_iff]
  constructor
  · rintro ⟨word, hword, before, after, heq⟩
    have hnot : c ∉ word := by
      intro hmem
      rw [hword.isSpelling c hmem] at hc
      exact absurd hc (by simp)
    rcases List.append_eq_append_iff.mp heq with ⟨later, hfront, -⟩ | ⟨later, hword', hafter⟩
    · exact .inl ⟨word, hword, before, later, hfront.symm⟩
    · cases later with
      | nil => exact .inl ⟨word, hword, before, [], by rw [List.append_nil] at hword' ⊢; exact hword'⟩
      | cons d later =>
        obtain ⟨rfl, hrest⟩ := List.cons.inj hafter
        -- The word cannot begin in front of the character and end behind it.
        rcases List.append_eq_append_iff.mp hword' with ⟨begun, -, hbegun⟩ | ⟨begun, -, hbegun⟩
        · exact absurd (by rw [hbegun]; simp) hnot
        · cases begun with
          | nil =>
            rw [List.nil_append] at hbegun
            exact absurd (by rw [← hbegun]; simp) hnot
          | cons e begun =>
            obtain ⟨-, rfl⟩ := List.cons.inj hbegun
            exact .inr ⟨word, hword, begun, after, hrest.symm⟩
  · rintro (⟨word, hword, hin⟩ | ⟨word, hword, hin⟩)
    · exact ⟨word, hword, hin.trans (List.prefix_append _ _).isInfix⟩
    · exact ⟨word, hword, (hin.trans (List.suffix_cons c rest).isInfix).trans (List.suffix_append _ _).isInfix⟩

theorem holdsWord_blank (cs : List Char) : holdsWord (' ' :: cs) = holdsWord cs := rfl

theorem holdsWord_introduced (cs : List Char) : holdsWord ("Restart failed for ".toList ++ cs) = holdsWord cs := rfl

/-- The failure of a restart tells the name of the component, and of its text only what is left of it. -/
theorem isSensitive_restartFailed (name text : String) :
    isSensitive (Error.restartFailed name (sanitize text)).message = isSensitive name := by
  have hmessage : (Error.restartFailed name (sanitize text)).message.toList =
      "Restart failed for ".toList ++ name.toList ++ ':' :: ' ' :: sanitizeChars text.toList := by
    have hcolon : ": ".toList = [':', ' '] := rfl
    unfold Error.message
    simp only [String.toList_append, toList_sanitize, hcolon, List.append_assoc, List.cons_append, List.nil_append]
  unfold isSensitive
  rw [hmessage, holdsWord_append_cons (by decide), holdsWord_introduced, holdsWord_blank, holdsWord_sanitizeChars,
    Bool.or_false]

end Redaction

/-! ## What one call writes -/

/-- The reason has a sensitive word in it. -/
def ComponentStatus.reveals (s : ComponentStatus) : Bool := s.reason.any isSensitive

namespace ComponentStatus

theorem reveals_reported (s : ComponentStatus) (text : String) (isCritical : Bool) :
    (s.reported (sanitize text) isCritical).reveals = false := by
  have hreason : (s.reported (sanitize text) isCritical).reason = some (sanitize text) := by
    unfold reported
    split
    · rfl
    · split
      · rfl
      · split <;> rfl
      · rfl
      · rfl
  unfold reveals
  rw [hreason, Option.any_some, isSensitive_sanitize]

end ComponentStatus

theorem Component.reveals_afterReport (c : Component) (text : String) (isCritical : Bool) :
    (c.afterReport (sanitize text) isCritical).reveals = false := by
  have hreported := c.status.reveals_reported text isCritical
  unfold afterReport
  dsimp only
  split
  · exact hreported
  · exact hreported

namespace SharedRegistry

open Registry

variable {s : SharedRegistry} {name : String} {c : Component}

/-- Whether a call writes the reason of a component. -/
def writesReason (s : SharedRegistry) (c : Component) : RegistryCall → Bool
  | .report name _ _ | .reset name => name = c.status.name
  | .restartEnded index (.error _) => s.waiting[index]?.any (·.component = c.status.name)
  | .disablePriority priority _ => isActiveOf priority c
  | _ => false

/-- Whether a call puts a sensitive word into the reason of a component. -/
def leaks (s : SharedRegistry) (c : Component) : RegistryCall → Bool
  | .restartEnded index (.error _) =>
    s.waiting[index]?.any (·.component = c.status.name) && isSensitive c.status.name
  | .disablePriority priority reason => isActiveOf priority c && isSensitive reason
  | _ => false

theorem writesReason_of_leaks {call : RegistryCall} (h : s.leaks c call = true) : s.writesReason c call = true := by
  unfold leaks at h
  unfold writesReason
  cases call with
  | restartEnded index result =>
    cases result with
    | ok value => exact absurd h (by simp)
    | error text =>
      rw [Bool.and_eq_true] at h
      exact h.1
  | disablePriority priority reason =>
    rw [Bool.and_eq_true] at h
    exact h.1
  | _ => exact absurd h (by simp)

/-- What a call does to the reason of a component. -/
theorem reveals_after (hredactor : s.registry.redactor = ⟨true⟩) (c : Component) (call : RegistryCall) :
    (s.after c call).reveals = if s.writesReason c call then s.leaks c call else c.status.reveals := by
  unfold after writesReason leaks
  cases call with
  | report name error isCritical =>
    simp only [hredactor, decide_eq_true_eq]
    split
    · exact c.reveals_afterReport error isCritical
    · rfl
  | restartEnded index result =>
    cases result with
    | ok value =>
      dsimp only
      split <;> rfl
    | error text =>
      simp only [hredactor]
      split
      next hwaits =>
        rw [hwaits, Bool.true_and]
        exact isSensitive_restartFailed c.status.name text
      next => rfl
  | reset name =>
    simp only [decide_eq_true_eq]
    split <;> rfl
  | disablePriority priority reason =>
    dsimp only
    split
    next hactive =>
      rw [hactive, Bool.true_and]
      rfl
    next => rfl
  | _ => rfl

/-- No call switches redaction on or off. -/
theorem redactor_step (s : SharedRegistry) (call : RegistryCall) :
    (s.step call).registry.redactor = s.registry.redactor := by
  cases call with
  | register name priority restart =>
    refine step_of_bind (P := fun s' => s'.registry.redactor = s.registry.redactor) rfl rfl ?_
    intro registered hregister
    cases hfind : s.registry.find? name with
    | none =>
      unfold register at hregister
      rw [hfind] at hregister
      obtain rfl := Except.ok.inj hregister
      rfl
    | some c =>
      rw [register_taken hfind] at hregister
      exact absurd hregister (by simp)
  | report name error isCritical =>
    cases hfind : s.registry.find? name with
    | none => rw [step_report_none hfind]
    | some c =>
      obtain ⟨s', hcall, hupdated, -⟩ := call_report hfind error isCritical
      rw [step_of_call hcall, hupdated.redactor]
  | restartEnded index result =>
    cases hwaiting : s.waiting[index]? with
    | none => rw [step_restartEnded_none hwaiting]
    | some report =>
      cases hfind : s.registry.find? report.component with
      | none => rw [step_restartEnded_unregistered hwaiting hfind]
      | some c =>
        obtain ⟨s', hcall, hupdated, -⟩ := call_restartEnded hwaiting hfind result
        rw [step_of_call hcall, hupdated.redactor]
  | reportDropped index => rfl
  | reset name =>
    cases hfind : s.registry.find? name with
    | none => rw [step_reset_none hfind]
    | some c =>
      obtain ⟨s', hcall, hupdated, -⟩ := call_reset hfind
      rw [step_of_call hcall, hupdated.redactor]
  | disablePriority priority reason =>
    show (s.registry.disablePriority priority reason).1.redactor = _
    unfold disablePriority
    dsimp only
    split <;> rfl
  | updateResource kind usage => rfl
  | setThresholds kind thresholds =>
    refine step_of_bind (P := fun s' => s'.registry.redactor = s.registry.redactor) rfl rfl ?_
    intro changed hset
    unfold setThresholds at hset
    split at hset
    · exact absurd hset (by simp)
    · obtain rfl := Except.ok.inj hset
      rfl
  | setConsistent value => rfl

theorem redactor_play (s : SharedRegistry) (calls : List RegistryCall) :
    (s.play calls).registry.redactor = s.registry.redactor := by
  induction calls using List.reverseRecOn with
  | nil => rfl
  | append_singleton calls call ih => rw [play_concat, redactor_step, ih]

/-- No run gives two components one name. -/
theorem uniqueNames_play (h : s.registry.UniqueNames) (calls : List RegistryCall) :
    (s.play calls).registry.UniqueNames := by
  induction calls using List.reverseRecOn with
  | nil => exact h
  | append_singleton calls call ih =>
    rw [play_concat]
    cases change_step (s.play calls) call with
    | refreshed r hrefreshes hafter hunique =>
      rw [hafter]
      exact hunique ih
    | restartBegun c reason hrefreshes hbegun hfind hrestarts hafter =>
      rw [hafter]
      exact uniqueNames_modify (fun _ => rfl) ih
    | nothing hrefreshes hbegun hafter =>
      rw [hafter]
      exact ih

/-! ## Runs -/

/-- At some moment of a run a call put a sensitive word into the reason of the component with a name, and no call since
then has written this reason. -/
def Leaked (s : SharedRegistry) (name : String) (calls : List RegistryCall) : Prop :=
  ∃ before call since c, calls = before ++ call :: since ∧ (s.play before).registry.find? name = some c ∧
    (s.play before).leaks c call = true ∧
    ∀ earlier next later c', since = earlier ++ next :: later →
      (s.play (before ++ call :: earlier)).registry.find? name = some c' →
      (s.play (before ++ call :: earlier)).writesReason c' next = false

theorem leaked_concat (s : SharedRegistry) (name : String) (calls : List RegistryCall) (call : RegistryCall) :
    Leaked s name (calls ++ [call]) ↔
      (∃ c, (s.play calls).registry.find? name = some c ∧ (s.play calls).leaks c call = true) ∨
        (Leaked s name calls ∧ ∀ c, (s.play calls).registry.find? name = some c →
          (s.play calls).writesReason c call = false) := by
  constructor
  · rintro ⟨before, first, since, c, hcalls, hfind, hleaks, hkept⟩
    rcases List.eq_nil_or_concat since with rfl | ⟨since, last, rfl⟩
    · obtain ⟨rfl, rfl⟩ : calls = before ∧ call = first := by simpa using hcalls
      exact .inl ⟨c, hfind, hleaks⟩
    · have hsplit : calls ++ [call] = (before ++ first :: since) ++ [last] := by simpa using hcalls
      obtain ⟨rfl, hlast⟩ := List.append_inj' hsplit rfl
      obtain rfl : call = last := by simpa using hlast
      refine .inr ⟨⟨before, first, since, c, rfl, hfind, hleaks, ?_⟩, ?_⟩
      · intro earlier next later c' hsince hc'
        exact hkept earlier next (later ++ [call]) c' (by simp [hsince]) hc'
      · intro c' hc'
        exact hkept since call [] c' (by simp) hc'
  · rintro (⟨c, hfind, hleaks⟩ | ⟨⟨before, first, since, c, rfl, hfind, hleaks, hkept⟩, hlast⟩)
    · exact ⟨calls, call, [], c, rfl, hfind, hleaks, fun earlier next later c' h => by simp at h⟩
    · refine ⟨before, first, since ++ [call], c, by simp, hfind, hleaks, ?_⟩
      intro earlier next later c' heq hc'
      rcases List.eq_nil_or_concat later with rfl | ⟨later, last, rfl⟩
      · obtain ⟨rfl, rfl⟩ : since = earlier ∧ call = next := by simpa using heq
        exact hlast c' hc'
      · have hsplit : since ++ [call] = (earlier ++ next :: later) ++ [last] := by simpa using heq
        obtain ⟨rfl, -⟩ := List.append_inj' hsplit rfl
        exact hkept earlier next later c' rfl hc'

/-- What a run keeps: the reason of a component gives a word away if it has leaked, and nothing leaks into a reason that
nobody keeps yet. -/
structure Disclosed (s : SharedRegistry) (name : String) (calls : List RegistryCall) : Prop where
  registered : ∀ c, (s.play calls).registry.find? name = some c →
    (c.status.reveals = true ↔ Leaked s name calls)
  unregistered : (s.play calls).registry.find? name = none → ¬ Leaked s name calls

theorem disclosed_step {calls : List RegistryCall} (hredactor : s.registry.redactor = ⟨true⟩)
    (h : Disclosed s name calls) (call : RegistryCall) : Disclosed s name (calls ++ [call]) := by
  have hredactor' : (s.play calls).registry.redactor = ⟨true⟩ := by rw [redactor_play, hredactor]
  cases hfind : (s.play calls).registry.find? name with
  | none =>
    have hnot : ¬ Leaked s name (calls ++ [call]) := by
      rw [leaked_concat]
      rintro (⟨c, hc, -⟩ | ⟨hleaked, -⟩)
      · rw [hfind] at hc
        exact absurd hc (by simp)
      · exact h.unregistered hfind hleaked
    refine ⟨fun c hc => iff_of_false ?_ hnot, fun _ => hnot⟩
    -- The call may register the component, and then there is no reason yet.
    rw [play_concat] at hc
    rcases find?_step_none hfind call with hnone | ⟨priority, restart, -, hfresh⟩
    · rw [hnone] at hc
      exact absurd hc (by simp)
    · obtain rfl := Option.some.inj (hfresh.symm.trans hc)
      simp [ComponentStatus.reveals, ComponentStatus.fresh]
  | some c =>
    have hstep := find?_step hfind call
    rw [← play_concat] at hstep
    refine ⟨fun c' hc' => ?_, fun hnone => ?_⟩
    · obtain rfl := Option.some.inj (hstep.symm.trans hc')
      have hafter := reveals_after hredactor' c call
      have hself := h.registered c hfind
      show ((s.play calls).after c call).reveals = true ↔ _
      rw [hafter, leaked_concat]
      simp only [hfind, Option.some.injEq, exists_eq_left', forall_eq']
      -- A call that writes the reason decides alone; any other call leaves things as they were.
      by_cases hwrites : (s.play calls).writesReason c call = true
      · simp [hwrites]
      · have hquiet : (s.play calls).leaks c call = false := by
          rw [Bool.eq_false_iff]
          exact fun hleaks => hwrites (writesReason_of_leaks hleaks)
        rw [if_neg hwrites, hquiet, hself]
        simp [hwrites]
    · rw [hstep] at hnone
      exact absurd hnone (by simp)

theorem disclosed_play (resources : ResourceSettings) (name : String) (calls : List RegistryCall) :
    Disclosed (new resources ⟨true⟩) name calls := by
  induction calls using List.reverseRecOn with
  | nil =>
    refine ⟨fun c hc => absurd hc (by simp [play, new, Registry.new, Registry.find?]), ?_⟩
    rintro - ⟨before, call, since, c, hcalls, -⟩
    simp at hcalls
  | append_singleton calls call ih => exact disclosed_step rfl ih call

/-! ## Results of reports -/

/-- The result that a report hands back when a call ends it. -/
def degradation? (s : SharedRegistry) : RegistryCall → Option (Degradation ComponentStatus)
  | .report name error isCritical =>
    match s.registry.beginReport name error isCritical with
    | .ok (r, .settled outcome) => (r.concludeReport name outcome).toOption.map (·.2.2)
    | .ok (r, .restarting none) => (r.endReport name (.ok ())).toOption.map (·.2.2)
    | .ok (_, .restarting (some _)) | .error _ => none
  | .restartEnded index result =>
    match s.waiting[index]? with
    | some report => (s.registry.endReport report.component result).toOption.map (·.2.2)
    | none => none
  | _ => none

variable {r r' : Registry} {events : List Event} {d : Degradation ComponentStatus}

theorem eq_ok_of_toOption {α β : Type} {x : Except Error α} {f : α → β} {b : β} (h : x.toOption.map f = some b) :
    ∃ a, x = .ok a ∧ f a = b := by
  cases x with
  | error e => exact absurd h (by simp [Except.toOption])
  | ok a => exact ⟨a, rfl, Option.some.inj h⟩

theorem find?_of_concludeReport {outcome : DegradationOutcome}
    (h : r.concludeReport name outcome = .ok (r', events, d)) :
    ∃ c, r'.find? d.component = some c ∧ c.status = d.status := by
  cases hfind : r.find? name with
  | none =>
    have hstatus : r.refresh.1.status name = .error (.componentNotFound name) := by
      unfold Registry.status
      rw [find?_refresh, hfind]
    unfold concludeReport at h
    rw [show r.refresh = (r.refresh.1, r.refresh.2) from rfl] at h
    dsimp only at h
    rw [hstatus] at h
    exact absurd h (by simp [bind, Except.bind])
  | some c =>
    rw [concludeReport_ok hfind] at h
    obtain ⟨rfl, -, rfl⟩ : r.refresh.1 = r' ∧ r.refresh.2 = events ∧ _ = d := by simpa using h
    exact ⟨c, hfind, rfl⟩

theorem find?_of_endReport {result : Except String Unit} (h : r.endReport name result = .ok (r', events, d)) :
    ∃ c, r'.find? d.component = some c ∧ c.status = d.status := by
  unfold endReport at h
  cases hfinish : r.finishRestart name result with
  | error e =>
    rw [hfinish] at h
    exact absurd h (by simp [bind, Except.bind])
  | ok finished =>
    rw [hfinish] at h
    exact find?_of_concludeReport h

/-- The status that a report hands back is the one that the registry has. -/
theorem find?_of_degradation {call : RegistryCall} (h : s.degradation? call = some d) :
    ∃ c, (s.step call).registry.find? d.component = some c ∧ c.status = d.status := by
  cases call with
  | report name error isCritical =>
    cases hbegin : s.registry.beginReport name error isCritical with
    | error e => simp [degradation?, hbegin] at h
    | ok begun =>
      obtain ⟨r, reported⟩ := begun
      cases reported with
      | settled outcome =>
        simp only [degradation?, hbegin] at h
        obtain ⟨⟨r', events, d'⟩, hconclude, rfl⟩ := eq_ok_of_toOption h
        have hcall : s.call (.report name error isCritical) = .ok (s.changed r' events) := by
          simp only [SharedRegistry.call, hbegin, hconclude, bind, Except.bind]
        rw [step_of_call hcall]
        exact find?_of_concludeReport hconclude
      | restarting handler =>
        cases handler with
        | some handler => simp [degradation?, hbegin] at h
        | none =>
          simp only [degradation?, hbegin] at h
          obtain ⟨⟨r', events, d'⟩, hend, rfl⟩ := eq_ok_of_toOption h
          have hcall : s.call (.report name error isCritical) = .ok (s.changed r' events) := by
            simp only [SharedRegistry.call, hbegin, hend, bind, Except.bind]
          rw [step_of_call hcall]
          exact find?_of_endReport hend
  | restartEnded index result =>
    cases hwaiting : s.waiting[index]? with
    | none => simp [degradation?, hwaiting] at h
    | some report =>
      simp only [degradation?, hwaiting] at h
      obtain ⟨⟨r', events, d'⟩, hend, rfl⟩ := eq_ok_of_toOption h
      have hcall : s.call (.restartEnded index result) =
          .ok { s.changed r' events with waiting := s.waiting.eraseIdx index } := by
        simp only [SharedRegistry.call, hwaiting, hend, bind, Except.bind]
      rw [step_of_call hcall]
      exact find?_of_endReport hend
  | _ => simp [degradation?] at h

/-- **What the reasons of failures give away.** With redaction on, after every run of calls: a sensitive word stands in
the reason of a component in a snapshot if and only if one has leaked into it, through a reason given for disabling a
priority or through the name of a component whose restart failed. The same holds of the status that a report hands
back. A call here is over at once, but for the restart handler that it may wait for; between the accesses of one call no
other comes in. -/
theorem reveals_iff (resources : ResourceSettings) (calls : List RegistryCall) :
    let fresh := new resources ⟨true⟩
    (∀ status ∈ (fresh.play calls).registry.snapshot.components,
      (status.reveals = true ↔ Leaked fresh status.name calls)) ∧
    ∀ call d, (fresh.play calls).degradation? call = some d →
      (d.status.reveals = true ↔ Leaked fresh d.component (calls ++ [call])) := by
  dsimp only
  constructor
  · intro status hstatus
    obtain ⟨c, hc, rfl⟩ := List.mem_map.mp hstatus
    have hunique := uniqueNames_play (s := new resources ⟨true⟩) List.nodup_nil calls
    exact (disclosed_play resources c.status.name calls).registered c (find?_of_mem hunique hc)
  · intro call d hd
    obtain ⟨c, hfind, hstatus⟩ := find?_of_degradation hd
    rw [← play_concat] at hfind
    rw [← hstatus]
    exact (disclosed_play resources d.component (calls ++ [call])).registered c hfind

/-- A failure is reported with a private key in its text. -/
def reportedKey : List RegistryCall :=
  [.register "signer" .low none, .report "signer" "bad private_key=deadbeef" false]

theorem reveals_iff_reportedKey :
    let fresh := new .default ⟨true⟩
    (fresh.play reportedKey).registry.snapshot.components.map (·.reason) = [some "bad [REDACTED]"] ∧
      ¬ Leaked fresh "signer" reportedKey := by
  have hcomponents : ((new .default ⟨true⟩).play reportedKey).registry.snapshot.components =
      [((ComponentStatus.fresh "signer" .low).countFailure "bad [REDACTED]").disable "bad [REDACTED]"] := by
    decide +kernel
  have hiff := (reveals_iff .default reportedKey).1
  intro fresh
  rw [hcomponents] at hiff ⊢
  refine ⟨rfl, fun hleaked => ?_⟩
  have hreveals := (hiff _ (List.mem_singleton_self _)).mpr hleaked
  exact absurd hreveals (by decide +kernel)

/-- A component is disabled for a reason that has a password in it, and the restart of a component fails whose name has
a sensitive word in it. -/
theorem reveals_disabled :
    let shown := fun calls => ((new .default ⟨true⟩).play calls).registry.snapshot.components.map
      fun status => (status.reason, status.reveals)
    shown [.register "worker" .low none, .disablePriority .low "password=hunter2"] =
        [(some "password=hunter2", true)] ∧
      shown [.register "token_feed" .high (some 0), .report "token_feed" "down" false,
          .restartEnded 0 (.error "refused")] =
        [(some "Restart failed for token_feed: refused", true)] := by
  dsimp only
  constructor <;> decide +kernel

end SharedRegistry

/-! ## The governor -/

namespace Governor

/-- What the governor asks of a registry when it handles a sample. -/
def sampleCalls (r : Registry) (kind : ResourceKind) (usage : Float) : List RegistryCall :=
  if kind = .memory ∧ (r.resources.get kind).thresholds.level usage = .critical then
    [.updateResource kind usage, .disablePriority .low memoryReason]
  else [.updateResource kind usage]

/-- A sample is one call to the registry, or two. -/
theorem handle_sampleCalls (g : Governor) (s : SharedRegistry) (kind : ResourceKind) (usage : Float) :
    s.changed (g.handle s.registry kind usage).registry (g.handle s.registry kind usage).events =
      s.play (sampleCalls s.registry kind usage) := by
  have hlevel : (s.registry.updateResource kind usage).2.2 =
      (s.registry.resources.get kind).thresholds.level usage := rfl
  unfold handle sampleCalls
  dsimp only
  rw [hlevel]
  generalize (s.registry.resources.get kind).thresholds.level usage = level
  cases kind <;> cases level <;>
    first
    | rfl
    | exact congrArg (SharedRegistry.mk _ _) (List.append_assoc _ _ _).symm

/-- What the governor does to a registry with a sample is done by calls that put no sensitive word into a reason. -/
theorem handle_play (g : Governor) (s : SharedRegistry) (kind : ResourceKind) (usage : Float) :
    ∃ calls, (∀ call ∈ calls, ∀ (s : SharedRegistry) (c : Component), s.leaks c call = false) ∧
      (g.handle s.registry kind usage).registry = (s.play calls).registry := by
  have hmemory : isSensitive memoryReason = false := by decide +kernel
  refine ⟨sampleCalls s.registry kind usage, fun call hcall other c => ?_,
    congrArg SharedRegistry.registry (g.handle_sampleCalls s kind usage)⟩
  have hcalls : call = .updateResource kind usage ∨ call = .disablePriority .low memoryReason := by
    unfold sampleCalls at hcall
    split at hcall
    · simpa using hcall
    · exact .inl (by simpa using hcall)
  rcases hcalls with rfl | rfl
  · rfl
  · show (_ && isSensitive memoryReason) = false
    rw [hmemory, Bool.and_false]

end Governor

end Failsafe
