import Failsafe.Proofs.Settings.Leaves

/-!
# What a tree of settings is read as

Each setting has its path of names in the tree that the layers give together (`Setting.path`), and is what stands there,
or else its default (`Setting.Effective`). Only the outline of what stands there counts, and a table is no value. This
is what the reader of settings makes of a tree as long as there are tables only above the path (`effective_of_ofTree`).
In the place of a table there may be an array as well, with the settings of a section in their order.
-/

namespace Failsafe

open Layer (section?)

/-- The settings that are read one by one. -/
inductive Setting where
  | maxRetries
  | baseDelay
  | maxDelay
  | backoffMultiplier
  | failureThreshold
  | cooldown
  | pollInterval
  | warning (kind : ResourceKind)
  | critical (kind : ResourceKind)
  | secureFailureMode
  | checkInterval

/-- What is made of a value that may be missing: what it converts to, or a default. -/
def Takes {α : Type} (convert : Json → Option α) (default x : α) : Option Json → Prop
  | some v => convert v = some x
  | none => x = default

namespace Setting

/-- The names that lead to a setting. -/
def path : Setting → List String
  | maxRetries => ["retry", "max_retries"]
  | baseDelay => ["retry", "base_delay_seconds"]
  | maxDelay => ["retry", "max_delay_seconds"]
  | backoffMultiplier => ["retry", "backoff_multiplier"]
  | failureThreshold => ["circuit_breaker", "failure_threshold"]
  | cooldown => ["circuit_breaker", "cooldown_seconds"]
  | pollInterval => ["resources", "poll_interval_seconds"]
  | warning kind => ["resources", kind.name, "warning_percent"]
  | critical kind => ["resources", kind.name, "critical_percent"]
  | secureFailureMode => ["security", "secure_failure_mode"]
  | checkInterval => ["validation", "check_interval_seconds"]

theorem path_ne_nil (setting : Setting) : setting.path ≠ [] := by
  cases setting <;> exact List.cons_ne_nil _ _

/-- A setting has the value that is given for it, or its default. -/
def Effective (s : Settings) (given : Option Json) : Setting → Prop
  | maxRetries => Takes Json.toUInt32? RetrySettings.default.maxRetries s.retry.maxRetries given
  | baseDelay => Takes Json.toFloat? RetrySettings.default.baseDelaySeconds s.retry.baseDelaySeconds given
  | maxDelay => Takes Json.toFloat? RetrySettings.default.maxDelaySeconds s.retry.maxDelaySeconds given
  | backoffMultiplier => Takes Json.toFloat? RetrySettings.default.backoffMultiplier s.retry.backoffMultiplier given
  | failureThreshold =>
    Takes Json.toUInt32? BreakerSettings.default.failureThreshold s.breaker.failureThreshold given
  | cooldown => Takes Json.toUInt64? BreakerSettings.default.cooldownSeconds s.breaker.cooldownSeconds given
  | pollInterval =>
    Takes Json.toUInt64? ResourceSettings.default.pollIntervalSeconds s.resources.pollIntervalSeconds given
  | warning kind =>
    Takes Json.toFloat? (ResourceSettings.default.thresholds kind).warning (s.resources.thresholds kind).warning given
  | critical kind =>
    Takes Json.toFloat? (ResourceSettings.default.thresholds kind).critical (s.resources.thresholds kind).critical given
  | secureFailureMode =>
    Takes Json.toFlag? SecuritySettings.default.secureFailureMode s.security.secureFailureMode given
  | checkInterval =>
    Takes Json.toUInt64? ValidationSettings.default.checkIntervalSeconds s.validation.checkIntervalSeconds given

end Setting

/-! ## Conversions see the outline -/

theorem toFlag?_outline (v : Json) : v.toFlag? = v.outline.bind Json.toFlag? := by cases v <;> rfl

theorem toUInt64?_outline (v : Json) : v.toUInt64? = v.outline.bind Json.toUInt64? := by cases v <;> rfl

theorem toUInt32?_outline (v : Json) : v.toUInt32? = v.outline.bind Json.toUInt32? := by cases v <;> rfl

theorem toFloat?_outline (v : Json) : v.toFloat? = v.outline.bind Json.toFloat? := by cases v <;> rfl

theorem object_of_outline {v : Json} (h : v.outline = none) : ∃ fields : Fields, v = .object fields := by
  cases v with
  | object fields => exact ⟨fields, rfl⟩
  | _ => exact absurd h nofun

/-! ## What stands below a key -/

section Below

variable {fields : Fields} {key : String}

theorem at?_field (fields : Fields) (key : String) : (Json.object fields).at? [key] = fields.get? key := by
  show (fields.get? key).bind some = _
  cases fields.get? key <;> rfl

theorem at?_under_none (hget : fields.get? key = none) (path : List String) :
    (Json.object fields).at? (key :: path) = none := by
  show (fields.get? key).bind (Json.at? · path) = none
  rw [hget]
  rfl

theorem at?_under {v : Json} (hget : fields.get? key = some v) (path : List String) :
    (Json.object fields).at? (key :: path) = v.at? path := by
  show (fields.get? key).bind (Json.at? · path) = _
  rw [hget]
  rfl

end Below

/-! ## Values and defaults -/

section Takes

variable {α σ : Type} {convert : Json → Option α} {default x : α} {fields : Fields} {key : String}

/-- A table does not convert. -/
theorem Takes.not_table (hconvert : ∀ v, convert v = v.outline.bind convert) {v : Option Json}
    (h : Takes convert default x v) : v.map Json.outline ≠ some none := by
  intro htable
  obtain ⟨v, rfl, houtline⟩ := Option.map_eq_some_iff.mp htable
  have hnone : convert v = none := by rw [hconvert v, houtline, Option.bind_none]
  exact absurd (hnone.symm.trans h) nofun

theorem Takes.congr (hconvert : ∀ v, convert v = v.outline.bind convert) {v w : Option Json}
    (h : Takes convert default x v) (hsame : v.map Json.outline = w.map Json.outline) : Takes convert default x w := by
  cases v with
  | none =>
    obtain rfl : w = none := by simpa using hsame.symm
    exact h
  | some v =>
    obtain ⟨w, rfl, houtline⟩ : ∃ w', w = some w' ∧ w'.outline = v.outline := by simpa using hsame.symm
    show convert w = some x
    rw [hconvert w, houtline, ← hconvert v]
    exact h

theorem Takes.eq_of_bind {v : Option Json} {y : α} (h : Takes convert default x v) (hv : v.bind convert = some y) :
    x = y := by
  obtain ⟨v, rfl, hy⟩ := Option.bind_eq_some_iff.mp hv
  exact Option.some.inj (Eq.trans (Eq.symm h) hy)

theorem Takes.eq_default {v : Option Json} (h : Takes convert default x v) (hv : v.isNone = true) : x = default := by
  rw [Option.isNone_iff_eq_none.mp hv] at h
  exact h

theorem takes_of_defaulted (h : fields.defaulted? key convert default = some x) :
    Takes convert default x (fields.get? key) := by
  unfold Fields.defaulted? at h
  cases hget : fields.get? key with
  | none =>
    rw [hget] at h
    exact (Option.some.inj h).symm
  | some v =>
    rw [hget] at h
    exact h

/-- A section whose key is there is read from it. -/
theorem ofTree_under {section? : Json → Option σ} {other s : σ} {v : Json}
    (hget : fields.get? key = some v) (h : fields.defaulted? key section? other = some s) : section? v = some s := by
  have htakes := takes_of_defaulted h
  rw [hget] at htakes
  exact htakes

/-- What a section takes from below its key, or its default has. -/
theorem takes_under {section? : Json → Option σ} {other s : σ} (part : σ → α) {path : List String}
    (h : fields.defaulted? key section? other = some s)
    (htable : ∀ v, fields.get? key = some v → v.outline = none)
    (hinner : ∀ inner, fields.get? key = some (.object inner) → section? (.object inner) = some s →
      Takes convert (part other) (part s) ((Json.object inner).at? path)) :
    Takes convert (part other) (part s) ((Json.object fields).at? (key :: path)) := by
  cases hget : fields.get? key with
  | none =>
    have hdefault := takes_of_defaulted h
    rw [hget] at hdefault
    rw [at?_under_none hget]
    exact congrArg part hdefault
  | some v =>
    obtain ⟨inner, rfl⟩ := object_of_outline (htable v hget)
    rw [at?_under hget]
    exact hinner inner hget (ofTree_under hget h)

end Takes

/-! ## Sections -/

section Sections

variable {fields : Fields}

theorem takes_retry {r : RetrySettings} (h : RetrySettings.ofTree? (.object fields) = some r) :
    Takes Json.toUInt32? RetrySettings.default.maxRetries r.maxRetries (fields.get? "max_retries") ∧
    Takes Json.toFloat? RetrySettings.default.baseDelaySeconds r.baseDelaySeconds (fields.get? "base_delay_seconds") ∧
    Takes Json.toFloat? RetrySettings.default.maxDelaySeconds r.maxDelaySeconds (fields.get? "max_delay_seconds") ∧
    Takes Json.toFloat? RetrySettings.default.backoffMultiplier r.backoffMultiplier
      (fields.get? "backoff_multiplier") := by
  simp only [RetrySettings.ofTree?, section?, Option.bind_eq_bind, Option.bind_some, Option.bind_eq_some_iff,
    Option.some.injEq] at h
  obtain ⟨maxRetries, hretries, baseDelay, hbase, maxDelay, hmax, multiplier, hmultiplier, rfl⟩ := h
  exact ⟨takes_of_defaulted hretries, takes_of_defaulted hbase, takes_of_defaulted hmax,
    takes_of_defaulted hmultiplier⟩

theorem takes_breaker {b : BreakerSettings} (h : BreakerSettings.ofTree? (.object fields) = some b) :
    Takes Json.toUInt32? BreakerSettings.default.failureThreshold b.failureThreshold
      (fields.get? "failure_threshold") ∧
    Takes Json.toUInt64? BreakerSettings.default.cooldownSeconds b.cooldownSeconds
      (fields.get? "cooldown_seconds") := by
  simp only [BreakerSettings.ofTree?, section?, Option.bind_eq_bind, Option.bind_some, Option.bind_eq_some_iff,
    Option.some.injEq] at h
  obtain ⟨threshold, hthreshold, cooldown, hcooldown, rfl⟩ := h
  exact ⟨takes_of_defaulted hthreshold, takes_of_defaulted hcooldown⟩

theorem takes_resources {r : ResourceSettings} (h : ResourceSettings.ofTree? (.object fields) = some r) :
    Takes Json.toUInt64? ResourceSettings.default.pollIntervalSeconds r.pollIntervalSeconds
      (fields.get? "poll_interval_seconds") ∧
    ∀ kind : ResourceKind, fields.defaulted? kind.name Thresholds.ofTree? (ResourceSettings.default.thresholds kind) =
      some (r.thresholds kind) := by
  simp only [ResourceSettings.ofTree?, section?, Option.bind_eq_bind, Option.bind_some, Option.bind_eq_some_iff,
    Option.some.injEq] at h
  obtain ⟨interval, hinterval, cpu, hcpu, memory, hmemory, disk, hdisk, network, hnetwork, rfl⟩ := h
  -- Each resource is read under its own name.
  refine ⟨takes_of_defaulted hinterval, fun kind => ?_⟩
  cases kind with
  | cpu => exact hcpu
  | memory => exact hmemory
  | disk => exact hdisk
  | network => exact hnetwork

/-- A pair of thresholds is given whole. -/
theorem pair_of_ofTree {t : Thresholds} (h : Thresholds.ofTree? (.object fields) = some t) :
    (∃ v, fields.get? "warning_percent" = some v ∧ v.toFloat? = some t.warning) ∧
      ∃ v, fields.get? "critical_percent" = some v ∧ v.toFloat? = some t.critical := by
  simp only [Thresholds.ofTree?, section?, Option.bind_eq_bind, Option.bind_some, Option.bind_eq_some_iff,
    Option.some.injEq, Fields.required?] at h
  obtain ⟨warning, hwarning, critical, hcritical, rfl⟩ := h
  exact ⟨hwarning, hcritical⟩

theorem takes_security {s : SecuritySettings} (h : SecuritySettings.ofTree? (.object fields) = some s) :
    Takes Json.toFlag? SecuritySettings.default.secureFailureMode s.secureFailureMode
      (fields.get? "secure_failure_mode") := by
  simp only [SecuritySettings.ofTree?, section?, Option.bind_eq_bind, Option.bind_some, Option.bind_eq_some_iff,
    Option.some.injEq] at h
  obtain ⟨mode, hmode, rfl⟩ := h
  exact takes_of_defaulted hmode

theorem takes_validation {s : ValidationSettings} (h : ValidationSettings.ofTree? (.object fields) = some s) :
    Takes Json.toUInt64? ValidationSettings.default.checkIntervalSeconds s.checkIntervalSeconds
      (fields.get? "check_interval_seconds") := by
  simp only [ValidationSettings.ofTree?, section?, Option.bind_eq_bind, Option.bind_some, Option.bind_eq_some_iff,
    Option.some.injEq] at h
  obtain ⟨interval, hinterval, rfl⟩ := h
  exact takes_of_defaulted hinterval

end Sections

/-! ## Settings -/

/-- Above a path there are tables only. -/
def TablesAbove (tree : Json) (path : List String) : Prop :=
  ∀ top v, top <+: path → top ≠ path → tree.at? top = some v → v.outline = none

section Tree

variable {fields : Fields}

theorem TablesAbove.field {key name : String} {path : List String}
    (h : TablesAbove (.object fields) (key :: name :: path)) {v : Json} (hget : fields.get? key = some v) :
    v.outline = none :=
  h [key] v ⟨name :: path, rfl⟩ (by simp) ((at?_field fields key).trans hget)

theorem TablesAbove.inner {key : String} {path : List String} (h : TablesAbove (.object fields) (key :: path))
    {inner : Fields} (hget : fields.get? key = some (.object inner)) : TablesAbove (.object inner) path := by
  intro top v htop hne hv
  refine h (key :: top) v (List.cons_prefix_cons.mpr ⟨rfl, htop⟩) (by simpa using hne) ?_
  rw [at?_under hget]
  exact hv

/-- The thresholds of a resource are below two keys. -/
theorem takes_thresholds {kind : ResourceKind} {name : String} {r : ResourceSettings} (part : Thresholds → Float)
    (h : fields.defaulted? "resources" ResourceSettings.ofTree? .default = some r)
    (htables : TablesAbove (.object fields) ["resources", kind.name, name])
    (hpart : ∀ (inner : Fields) t, Thresholds.ofTree? (.object inner) = some t →
      ∃ v, inner.get? name = some v ∧ v.toFloat? = some (part t)) :
    Takes Json.toFloat? (part (ResourceSettings.default.thresholds kind)) (part (r.thresholds kind))
      ((Json.object fields).at? ["resources", kind.name, name]) := by
  refine takes_under (fun r => part (r.thresholds kind)) h (fun v => htables.field) fun inner hinner hsection => ?_
  have hpair := (takes_resources hsection).2 kind
  refine takes_under part hpair (fun v => (htables.inner hinner).field) fun inner' hinner' hthresholds => ?_
  obtain ⟨v, hget, hv⟩ := hpart inner' _ hthresholds
  rw [at?_field, hget]
  exact hv

/-- A field of a section. -/
theorem takes_field {α σ : Type} {convert : Json → Option α} {section? : Json → Option σ} {other s : σ}
    (part : σ → α) {key name : String} (h : fields.defaulted? key section? other = some s)
    (htables : TablesAbove (.object fields) [key, name])
    (hpart : ∀ inner : Fields, section? (.object inner) = some s →
      Takes convert (part other) (part s) (inner.get? name)) :
    Takes convert (part other) (part s) ((Json.object fields).at? [key, name]) := by
  refine takes_under part h (fun v => htables.field) fun inner _ hsection => ?_
  rw [at?_field]
  exact hpart inner hsection

end Tree

theorem effective_of_ofTree {tree : Json} {s : Settings} (h : Settings.ofTree? tree = some s) (setting : Setting)
    (htables : TablesAbove tree setting.path) : setting.Effective s (tree.at? setting.path) := by
  obtain ⟨fields, rfl⟩ := object_of_outline (htables [] tree List.nil_prefix setting.path_ne_nil.symm rfl)
  simp only [Settings.ofTree?, section?, Option.bind_eq_bind, Option.bind_some, Option.bind_eq_some_iff,
    Option.some.injEq] at h
  obtain ⟨retry, hretry, breaker, hbreaker, resources, hresources, security, hsecurity, validation, hvalidation,
    rfl⟩ := h
  cases setting with
  | maxRetries => exact takes_field (·.maxRetries) hretry htables fun _ h => (takes_retry h).1
  | baseDelay => exact takes_field (·.baseDelaySeconds) hretry htables fun _ h => (takes_retry h).2.1
  | maxDelay => exact takes_field (·.maxDelaySeconds) hretry htables fun _ h => (takes_retry h).2.2.1
  | backoffMultiplier => exact takes_field (·.backoffMultiplier) hretry htables fun _ h => (takes_retry h).2.2.2
  | failureThreshold => exact takes_field (·.failureThreshold) hbreaker htables fun _ h => (takes_breaker h).1
  | cooldown => exact takes_field (·.cooldownSeconds) hbreaker htables fun _ h => (takes_breaker h).2
  | pollInterval =>
    exact takes_field (·.pollIntervalSeconds) hresources htables fun _ h => (takes_resources h).1
  | warning kind => exact takes_thresholds (·.warning) hresources htables fun _ _ h => (pair_of_ofTree h).1
  | critical kind => exact takes_thresholds (·.critical) hresources htables fun _ _ h => (pair_of_ofTree h).2
  | secureFailureMode => exact takes_field (·.secureFailureMode) hsecurity htables fun _ h => takes_security h
  | checkInterval => exact takes_field (·.checkIntervalSeconds) hvalidation htables fun _ h => takes_validation h

namespace Setting.Effective

variable {s : Settings} {setting : Setting} {v w : Option Json}

theorem not_table (h : setting.Effective s v) : v.map Json.outline ≠ some none := by
  cases setting with
  | maxRetries | failureThreshold => exact Takes.not_table toUInt32?_outline h
  | baseDelay | maxDelay | backoffMultiplier => exact Takes.not_table toFloat?_outline h
  | cooldown | pollInterval | checkInterval => exact Takes.not_table toUInt64?_outline h
  | warning kind | critical kind => exact Takes.not_table toFloat?_outline h
  | secureFailureMode => exact Takes.not_table toFlag?_outline h

theorem congr (h : setting.Effective s v) (hsame : v.map Json.outline = w.map Json.outline) :
    setting.Effective s w := by
  cases setting with
  | maxRetries | failureThreshold => exact Takes.congr toUInt32?_outline h hsame
  | baseDelay | maxDelay | backoffMultiplier => exact Takes.congr toFloat?_outline h hsame
  | cooldown | pollInterval | checkInterval => exact Takes.congr toUInt64?_outline h hsame
  | warning kind | critical kind => exact Takes.congr toFloat?_outline h hsame
  | secureFailureMode => exact Takes.congr toFlag?_outline h hsame

end Setting.Effective

/-- A pair of thresholds has both percentages or none. -/
theorem pair_of_settings {tree : Json} {s : Settings} (h : Settings.ofTree? tree = some s) (kind : ResourceKind)
    (htables : TablesAbove tree (Setting.warning kind).path) :
    (tree.at? (Setting.warning kind).path).isSome = (tree.at? (Setting.critical kind).path).isSome := by
  obtain ⟨fields, rfl⟩ := object_of_outline (htables [] tree List.nil_prefix (Setting.warning kind).path_ne_nil.symm rfl)
  simp only [Settings.ofTree?, section?, Option.bind_eq_bind, Option.bind_some, Option.bind_eq_some_iff,
    Option.some.injEq] at h
  obtain ⟨-, -, -, -, resources, hresources, -⟩ := h
  change TablesAbove (.object fields) ["resources", kind.name, "warning_percent"] at htables
  show ((Json.object fields).at? ["resources", kind.name, "warning_percent"]).isSome =
    ((Json.object fields).at? ["resources", kind.name, "critical_percent"]).isSome
  cases hsection : fields.get? "resources" with
  | none => rw [at?_under_none hsection, at?_under_none hsection]
  | some v =>
    obtain ⟨inner, rfl⟩ := object_of_outline (htables.field hsection)
    rw [at?_under hsection, at?_under hsection]
    have hkind := (takes_resources (ofTree_under hsection hresources)).2 kind
    cases hpair : inner.get? kind.name with
    | none => rw [at?_under_none hpair, at?_under_none hpair]
    | some v =>
      obtain ⟨pair, rfl⟩ := object_of_outline ((htables.inner hsection).field hpair)
      obtain ⟨⟨warning, hwarning, -⟩, critical, hcritical, -⟩ := pair_of_ofTree (ofTree_under hpair hkind)
      rw [at?_under hpair, at?_under hpair, at?_field, at?_field, hwarning, hcritical]
      rfl

end Failsafe
