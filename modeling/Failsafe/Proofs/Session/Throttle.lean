import Failsafe.Proofs.Session.Schedule

/-!
# What sets the throttle flag

Samples reach the governor in three ways: one with a command, several with a poll that is asked for, and several with
each turn of a monitor. `Session.samples` lists all that it handles, in order, each with the thresholds in force at the
time. The flag says whether the last one of the cpu was critical (`throttled_iff`), and nothing else: a sample writes
the flag or leaves it alone, so of several samples the last that writes counts (`throttledAfter`), and between samples
all is still.

A poll is no more than its readings one after the other, each as if by a command of its own
(`perform_poll_readings`), and a poll that fails does nothing.
-/

namespace Failsafe

/-! ## Levels -/

theorem not_le_of_isNaN {x y : Float} (h : y.isNaN = true) : ¬ x ≤ y := by
  have hle : x ≤ y ↔ x.toModel.unpack.le y.toModel.unpack = true := by
    show decide (x.toModel.unpack.le y.toModel.unpack = true) = true ↔ _
    rw [decide_eq_true_iff]
  rw [hle]
  have hnumber : y.toModel.unpack.isNaN = true := h
  cases hy : y.toModel.unpack with
  | notANumber => cases x.toModel.unpack <;> simp [Float.Model.UnpackedFloat.le, Float.Model.UnpackedFloat.compare]
  | _ => simp [hy, Float.Model.UnpackedFloat.isNaN] at hnumber

/-- A use that is no number is normal. -/
theorem Thresholds.level_of_isNaN (t : Thresholds) {usage : Float} (h : usage.isNaN = true) :
    t.level usage = .normal := by
  unfold level
  rw [if_neg (not_le_of_isNaN h), if_neg (not_le_of_isNaN h)]

/-! ## Samples -/

/-- A sample that is handled, with the thresholds in force. -/
structure HandledSample where
  kind : ResourceKind
  usage : Float
  thresholds : Thresholds
deriving DecidableEq

namespace HandledSample

def level (x : HandledSample) : ResourceLevel := x.thresholds.level x.usage

/-- What a sample writes into the throttle flag, if it is one of the cpu. -/
def flag? (x : HandledSample) : Option Bool := if x.kind = .cpu then some (x.level = .critical) else none

end HandledSample

/-- The throttle flag after samples. -/
def throttledAfter (flag : Bool) (samples : List HandledSample) : Bool :=
  (samples.filterMap HandledSample.flag?).getLast?.getD flag

theorem throttledAfter_append (flag : Bool) (first rest : List HandledSample) :
    throttledAfter flag (first ++ rest) = throttledAfter (throttledAfter flag first) rest := by
  unfold throttledAfter
  rw [List.filterMap_append, List.getLast?_append]
  cases (rest.filterMap HandledSample.flag?).getLast? <;> rfl

/-- If the flag is clear at first, it tells of the last sample of the cpu. -/
theorem throttledAfter_false_iff (samples : List HandledSample) :
    throttledAfter false samples = true ↔
      ∃ last, (samples.filter (·.kind = .cpu)).getLast? = some last ∧ last.level = .critical := by
  have hwrites : samples.filterMap HandledSample.flag? =
      (samples.filter (·.kind = .cpu)).map fun x => decide (x.level = .critical) := by
    rw [← List.filterMap_eq_map, List.filterMap_filter]
    refine congrArg (List.filterMap · samples) (funext fun x => ?_)
    simp [HandledSample.flag?]
  unfold throttledAfter
  rw [hwrites, List.getLast?_map]
  cases (samples.filter (·.kind = .cpu)).getLast? with
  | none => simp
  | some last => simp

namespace Session

/-- A sample that is handled now. -/
def sampleNow (s : Session) (kind : ResourceKind) (usage : Float) : HandledSample :=
  ⟨kind, usage, (s.registry.resources.get kind).thresholds⟩

/-- The readings that are handled, one after the other: all of them, unless a hook panics on the way. -/
def handled (s : Session) : List (ResourceKind × Float) → List HandledSample
  | [] => []
  | (kind, usage) :: rest =>
    s.sampleNow kind usage ::
      if (s.handleSample kind usage).2.2 then [] else (s.handleSample kind usage).1.handled rest

/-- The samples that are handled of what a sampler gave. -/
def handledOf (s : Session) : Sampling → List HandledSample
  | .readings readings => s.handled readings
  | .failed => []

/-- The samples that are handled in a turn of a loop. -/
def turnSamples (s : Session) (hook : Nat) : Job → List HandledSample
  | .monitor script => (s.callHook hook).1.handledOf (script.head?.getD (.readings []))
  | .validator _ => []

/-- The samples that are handled when something happens. -/
def Happening.samples (h : Happening) : List HandledSample :=
  match h.what with
  | .cooldown => []
  | .task i => ((h.before.tasks[i]?).map fun task => h.before.turnSamples task.hook task.job).getD []

/-- The session when the sampler of a poll has been called. -/
def sampled (s : Session) : Session := ((s.addHook "sample" []).1.callHook s.hooks.length).1

/-- The samples that a command hands to the governor itself. -/
def ownSamples (s : Session) : Command → List HandledSample
  | .handle kind usage => [s.sampleNow kind usage]
  | .poll sampling => s.sampled.handledOf sampling
  | _ => []

/-- The samples that are handled while commands are carried out. -/
def samples (s : Session) : List Command → List HandledSample
  | [] => []
  | command :: rest =>
    s.ownSamples command ++ (s.stepHappenings command).flatMap Happening.samples ++ (s.step command).1.samples rest

end Session

/-! ## The flag -/

theorem Governor.handle_throttled (g : Governor) (r : Registry) (kind : ResourceKind) (usage : Float) :
    (g.handle r kind usage).governor.throttled =
      g.throttleAfter kind ((r.resources.get kind).thresholds.level usage) := by
  unfold handle
  dsimp only
  split <;> rfl

namespace Session

variable (s : Session)

theorem callHook_governor (hook : Nat) : (s.callHook hook).1.governor = s.governor := by
  unfold callHook
  split <;> rfl

theorem handleSample_throttled (kind : ResourceKind) (usage : Float) :
    (s.handleSample kind usage).1.governor.throttled =
      throttledAfter s.governor.throttled [s.sampleNow kind usage] := by
  have hgovernor : (s.handleSample kind usage).1.governor = (s.governor.handle s.registry kind usage).governor := by
    unfold handleSample
    dsimp only
    split
    · rfl
    · exact callHook_governor _ _
  rw [hgovernor, Governor.handle_throttled]
  unfold Governor.throttleAfter throttledAfter sampleNow HandledSample.flag? HandledSample.level
  split <;> simp [*]

theorem handleSamples_throttled (readings : List (ResourceKind × Float)) :
    (s.handleSamples readings).1.governor.throttled =
      throttledAfter s.governor.throttled (s.handled readings) := by
  induction readings generalizing s with
  | nil => rfl
  | cons reading rest ih =>
    obtain ⟨kind, usage⟩ := reading
    unfold handleSamples handled
    rw [← List.singleton_append, throttledAfter_append, ← handleSample_throttled]
    dsimp only
    split
    · rfl
    · exact ih _

theorem handleSampling_throttled (sampling : Sampling) :
    (s.handleSampling sampling).1.governor.throttled =
      throttledAfter s.governor.throttled (s.handledOf sampling) := by
  cases sampling with
  | readings readings => exact s.handleSamples_throttled readings
  | failed => rfl

theorem turn_throttled (hook : Nat) (job : Job) :
    (s.turn hook job).1.governor.throttled = throttledAfter s.governor.throttled (s.turnSamples hook job) := by
  have hcalled := congrArg Governor.throttled (s.callHook_governor hook)
  cases job with
  | monitor script =>
    rw [← hcalled]
    exact handleSampling_throttled _ _
  | validator script => exact hcalled

variable {s}

theorem Comes.happen_throttled {moment : Nat} {what : Due} (h : s.Comes moment what) :
    (s.happen moment what).governor.throttled =
      throttledAfter s.governor.throttled (Happening.samples ⟨moment, what, s⟩) := by
  cases what with
  | cooldown => rfl
  | task i =>
    obtain ⟨task, htask, -⟩ := h.falls
    have hsamples : Happening.samples ⟨moment, .task i, s⟩ = s.turnSamples task.hook task.job := by
      unfold Happening.samples
      dsimp only
      rw [htask]
      rfl
    have hturn : (s.runTask i).governor = (s.turn task.hook task.job).1.governor := by
      rw [runTask_of_alive htask (h.alive i task rfl htask)]
    rw [hsamples, ← turn_throttled, ← hturn]
    rfl

/-- As long as all is still in between, the flag is as what happens leaves it. -/
theorem Leads.throttled {s' : Session} {happenings : List Happening} (h : s.Leads SameThrottle happenings s') :
    s'.governor.throttled = throttledAfter s.governor.throttled (happenings.flatMap Happening.samples) := by
  induction h with
  | calm _ hrel => exact hrel
  | happens h =>
    rw [List.flatMap_singleton]
    exact h.happen_throttled
  | trans _ _ ih ih' => rw [List.flatMap_append, throttledAfter_append, ih', ih]

theorem perform_throttled (command : Command) :
    (s.perform command).1.governor.throttled = throttledAfter s.governor.throttled
      (s.ownSamples command ++ (s.performHappenings command).flatMap Happening.samples) := by
  cases hsamples : command.samples with
  | true =>
    cases command with
    | handle kind usage => exact s.handleSample_throttled kind usage
    | poll sampling =>
      have hcalled : s.sampled.governor = s.governor := callHook_governor _ _
      have hhandled := s.sampled.handleSampling_throttled sampling
      rw [hcalled] at hhandled
      have hnone : s.performHappenings (.poll sampling) = [] := rfl
      rw [hnone, List.flatMap_nil, List.append_nil]
      exact hhandled
    | _ => exact absurd hsamples (by simp [Command.samples])
  | false =>
    have hnone : s.ownSamples command = [] := by
      cases command <;> first | rfl | exact absurd hsamples (by simp [Command.samples])
    rw [hnone, List.nil_append]
    by_cases hshutdown : command = .shutdown
    · rw [hshutdown]
      rfl
    · exact (s.perform_elapses hshutdown hsamples).leads.throttled

theorem after_throttled (commands : List Command) :
    (s.after commands).governor.throttled = throttledAfter s.governor.throttled (s.samples commands) := by
  induction commands generalizing s with
  | nil => rfl
  | cons command rest ih =>
    have hsettled := (s.perform command).1.settle_elapses.leads.throttled
    rw [perform_throttled, ← throttledAfter_append, List.append_assoc, ← List.flatMap_append] at hsettled
    have hstep : (s.step command).1.governor.throttled = throttledAfter s.governor.throttled
        (s.ownSamples command ++ (s.stepHappenings command).flatMap Happening.samples) := hsettled
    unfold samples
    rw [throttledAfter_append, ← hstep]
    exact ih

/-! ## Polls -/

end Session

/-- The actions that a command answers with. -/
def Reply.governorActions : Reply → List GovernorAction
  | .actions taken => taken
  | _ => []

namespace Session

/-- Carries out commands one after the other and collects their replies, up to the first in which a hook panics in the
foreground. -/
def performAll (s : Session) : List Command → Session × List Reply
  | [] => (s, [])
  | command :: rest =>
    let (s, reply) := s.perform command
    if s.panicked then (s, [reply])
    else
      let (s, replies) := s.performAll rest
      (s, reply :: replies)

theorem throughHooks_panicked : ThroughHooks fun s s' => s'.panicked = s.panicked where
  refl := fun _ => rfl
  trans := fun h h' => h'.trans h
  hooks := fun _ _ => rfl
  governor := fun _ _ => rfl
  tended := fun _ => rfl

variable {s : Session}

/-- Readings are handled as if each came with a command of its own. -/
theorem handleSamples_eq_performAll (h : s.panicked = false) (readings : List (ResourceKind × Float)) :
    let apart := s.performAll (readings.map fun (kind, usage) => .handle kind usage)
    apart.1 = (s.handleSamples readings).1.orPanic (s.handleSamples readings).2.2 ∧
      apart.2.flatMap Reply.governorActions = (s.handleSamples readings).2.1 := by
  induction readings generalizing s with
  | nil => exact ⟨by simp [performAll, handleSamples, orPanic], rfl⟩
  | cons reading rest ih =>
    obtain ⟨kind, usage⟩ := reading
    have hkept : (s.handleSample kind usage).1.panicked = false :=
      (throughHooks_panicked.handleSample s kind usage).trans h
    have hperform : s.perform (.handle kind usage) =
        ((s.handleSample kind usage).1.orPanic (s.handleSample kind usage).2.2,
          .actions (s.handleSample kind usage).2.1) := rfl
    dsimp only
    rw [List.map_cons]
    unfold performAll handleSamples
    dsimp only
    rw [hperform]
    dsimp only
    cases hpanics : (s.handleSample kind usage).2.2 with
    | true =>
      have hpanicked : ((s.handleSample kind usage).1.orPanic true).panicked = true := by simp [orPanic]
      rw [if_pos hpanicked, if_pos rfl]
      exact ⟨rfl, by simp [Reply.governorActions]⟩
    | false =>
      have horPanic : (s.handleSample kind usage).1.orPanic false = (s.handleSample kind usage).1 := by simp [orPanic]
      rw [horPanic, if_neg (by simp [hkept]), if_neg Bool.false_ne_true]
      obtain ⟨hstate, hactions⟩ := ih hkept
      dsimp only at hstate hactions ⊢
      refine ⟨hstate, ?_⟩
      rw [List.flatMap_cons, hactions]
      rfl

theorem perform_poll_readings (h : s.panicked = false) (readings : List (ResourceKind × Float)) :
    let apart := s.sampled.performAll (readings.map fun (kind, usage) => .handle kind usage)
    s.perform (.poll (.readings readings)) = (apart.1, .actions (apart.2.flatMap Reply.governorActions)) := by
  have hsampled : s.sampled.panicked = false :=
    (throughHooks_panicked.callHook (s.addHook "sample" []).1 s.hooks.length).trans h
  obtain ⟨hstate, hactions⟩ := handleSamples_eq_performAll hsampled readings
  dsimp only at hstate hactions ⊢
  rw [hstate, hactions]
  rfl

/-- A poll that fails leaves nothing but the call of the sampler. -/
theorem perform_poll_failed (s : Session) :
    s.perform (.poll .failed) = ({ s with hooks := s.hooks ++ [⟨"sample", [], 1⟩] }, .actions []) := by
  have hsampled : s.sampled = { s with hooks := s.hooks ++ [⟨"sample", [], 1⟩] } := by
    simp [sampled, addHook, callHook]
  have hperform : s.perform (.poll .failed) = (s.sampled.orPanic false, .actions []) := rfl
  rw [hperform, hsampled]
  simp [orPanic]

/-- **What sets the throttle flag.** After any commands the flag is set if and only if the last sample of the cpu that
the governor handled was critical under the thresholds in force at the time; one that is no number is not. A sample of
any other resource leaves the flag alone. A poll handles its readings as commands of their own would, one after the
other, with the same state after it and all their actions in order. A poll whose sampler fails takes no action and
leaves nothing but the call of the sampler, and so does such a turn of a monitor. -/
theorem throttled_iff {settings : Settings} {clock : Clock} {first : Session} (h : new? settings clock = some first)
    (commands : List Command) :
    let s := first.after commands
    (s.governor.throttled = true ↔
      ∃ last, ((first.samples commands).filter (·.kind = .cpu)).getLast? = some last ∧ last.level = .critical) ∧
    (∀ sample : HandledSample, sample.usage.isNaN = true → sample.level ≠ .critical) ∧
    (∀ kind usage, kind ≠ .cpu →
      (s.perform (.handle kind usage)).1.governor.throttled = s.governor.throttled) ∧
    (s.panicked = false → ∀ readings : List (ResourceKind × Float),
      let apart := s.sampled.performAll (readings.map fun (kind, usage) => .handle kind usage)
      s.perform (.poll (.readings readings)) = (apart.1, .actions (apart.2.flatMap Reply.governorActions))) ∧
    s.perform (.poll .failed) = ({ s with hooks := s.hooks ++ [⟨"sample", [], 1⟩] }, .actions []) ∧
    (∀ hook script, s.turn hook (.monitor (.failed :: script)) = ((s.callHook hook).1, false)) := by
  obtain ⟨limits, maxDelay, hfirst⟩ := new?_eq_some h
  have hclear : first.governor.throttled = false := by
    rw [hfirst]
    rfl
  intro s
  refine ⟨?_, fun sample hnan => ?_, fun kind usage hother => ?_, fun hpanicked => perform_poll_readings hpanicked,
    s.perform_poll_failed, fun _ _ => rfl⟩
  · rw [after_throttled, hclear]
    exact throttledAfter_false_iff _
  · unfold HandledSample.level
    rw [sample.thresholds.level_of_isNaN hnan]
    exact ResourceLevel.noConfusion
  · have hflag := s.handleSample_throttled kind usage
    have hnone : (s.sampleNow kind usage).flag? = none := if_neg hother
    rw [throttledAfter, List.filterMap_cons_none hnone] at hflag
    exact hflag

/-- The cpu was at 96 percent, and then the thresholds were raised above it. The disk is full, but that is another
matter. -/
theorem throttled_iff_raised :
    let commands := [Command.handle .cpu 96.0, .setThresholds .cpu ⟨97.0, 98.0⟩,
      .poll (.readings [(.disk, 99.0), (.memory, 10.0)])]
    ∃ first, new? .default = some first ∧ (first.after commands).governor.throttled = true := by
  intro commands
  have hfirst : new? .default = some _ := rfl
  refine ⟨_, hfirst, (throttled_iff hfirst commands).1.mpr ⟨⟨.cpu, 96.0, ResourceSettings.default.cpu⟩, ?_, ?_⟩⟩
  · decide +kernel
  · decide +kernel

end Session

end Failsafe
