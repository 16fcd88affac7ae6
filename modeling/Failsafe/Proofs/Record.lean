import Failsafe.Health.Record
import Failsafe.Proofs.Fields
import Failsafe.Proofs.Timestamp
import Failsafe.Recovery.Record
import Failsafe.Session.Record

/-!
# Records and their readers

What a reader makes of what is written: `Reads decode encode` says that the reader gives back every value that the
writer writes. It holds of the parts of a record, numbers, names, lists, maps from names, values that may be missing,
durations and moments, and so of the records made of them.

A reader accepts more than the writer writes: unknown fields, missing options, arrays in place of objects, objects in
place of names, surplus nanoseconds, other clocks. Because every value is read back, to read and to write once is to
bring a value into its normal form (`RoundTrip.normal`).
-/

namespace Failsafe

/-- The reader gives back what the writer writes. -/
def Reads {α : Type} (decode : Json → Option α) (encode : α → Json) : Prop := ∀ a, decode (encode a) = some a

namespace Reads

variable {α κ : Type} {decode : Json → Option α} {encode : α → Json}

/-! ## Parts -/

theorem text : Reads Json.text? .text := fun _ => rfl

theorem bool : Reads Json.bool? .bool := fun _ => rfl

theorem object : Reads Json.object? .object := fun _ => rfl

theorem nat : Reads Json.nat? .ofNat := by
  intro n
  show (if 0 ≤ (n : Int) then some (n : Int).toNat else none) = some n
  rw [if_pos (Int.natCast_nonneg n), Int.toNat_natCast]

theorem uint32 : Reads Json.uint32? fun n => .ofNat n.toNat := by
  intro n
  unfold Json.uint32?
  rw [nat n.toNat]
  simp only [Option.bind_eq_bind, Option.bind_some, if_pos n.toNat_lt_size, Nat.toUInt32, UInt32.ofNat_toNat]

theorem uint64 : Reads Json.uint64? fun n => .ofNat n.toNat := by
  intro n
  unfold Json.uint64?
  rw [nat n.toNat]
  simp only [Option.bind_eq_bind, Option.bind_some, if_pos n.toNat_lt_size, Nat.toUInt64, UInt64.ofNat_toNat]

/-- A name is read back whatever else may stand beside it. -/
theorem named [Named α] (blank : Json → Bool) : Reads (Json.named? blank) (.ofName : α → Json) := Named.ofName?_name

/-- A missing value is written as null, so a value may not be. -/
theorem option (h : Reads decode encode) (hnull : ∀ a, (encode a).isNull = false) :
    Reads (Json.option? decode) (.ofOption encode) := by
  intro a
  cases a with
  | none => rfl
  | some a =>
    have hvalue := h a
    have hencode := hnull a
    show Json.option? decode (encode a) = some (some a)
    unfold Json.option?
    split
    · next hnull' =>
      rw [hnull'] at hencode
      exact absurd hencode (by decide)
    · rw [hvalue, Option.map_some]

theorem list (h : Reads decode encode) : Reads (Json.list? decode) (.ofList encode) := by
  intro items
  show (items.map encode).mapM decode = some items
  induction items with
  | nil => rfl
  | cons a items ih =>
    rw [List.map_cons, List.mapM_cons, h a, ih]
    rfl

/-! ## Maps from names -/

variable [Named κ]

/-- The fields of a map from names, for some of the names. -/
def rows (encode : α → Json) (table : κ → Option α) (names : List κ) : Fields :=
  names.filterMap fun k => (table k).map fun a => (Named.name k, encode a)

theorem name_injective {k k' : κ} (h : Named.name k = Named.name k') : k = k' := by
  have hname := Named.ofName?_name k
  rw [h, Named.ofName?_name] at hname
  exact (Option.some.inj hname).symm

theorem get?_rows_of_none {table : κ → Option α} {k : κ} (h : table k = none) (names : List κ) :
    Fields.get? (rows encode table names) (Named.name k) = none := by
  induction names with
  | nil => rfl
  | cons k' names ih =>
    unfold rows at ih ⊢
    cases hrow : table k' with
    | none => rwa [List.filterMap_cons_none (by rw [hrow]; rfl)]
    | some a =>
      rw [List.filterMap_cons_some (by rw [hrow]; rfl), Fields.get?_cons, if_neg, ih]
      intro hname
      rw [← name_injective hname, hrow] at h
      exact absurd h nofun

theorem get?_rows {table : κ → Option α} {k : κ} {names : List κ} (h : k ∈ names) :
    Fields.get? (rows encode table names) (Named.name k) = (table k).map encode := by
  cases hvalue : table k with
  | none => exact get?_rows_of_none hvalue names
  | some a =>
    induction names with
    | nil => exact absurd h List.not_mem_nil
    | cons k' names ih =>
      unfold rows at ih ⊢
      by_cases hname : Named.name k' = Named.name k
      · obtain rfl := name_injective hname
        rw [List.filterMap_cons_some (by rw [hvalue]; rfl), Fields.get?_cons, if_pos rfl, Option.map_some]
      · have hmem : k ∈ names := by
          rcases List.mem_cons.mp h with rfl | hmem
          · exact absurd rfl hname
          · exact hmem
        cases hrow : table k' with
        | none => rw [List.filterMap_cons_none (by rw [hrow]; rfl), ih hmem]
        | some b => rw [List.filterMap_cons_some (by rw [hrow]; rfl), Fields.get?_cons, if_neg hname, ih hmem]

theorem table (h : Reads decode encode) :
    Reads (Json.table? decode) (Json.ofTable encode : (κ → Option α) → Json) := by
  intro table
  have hall : (rows encode table Named.all).all
      (fun row => (Named.ofName? row.1 : Option κ).isSome && (decode row.2).isSome) = true := by
    refine List.all_eq_true.mpr fun row hrow => ?_
    obtain ⟨k, -, hk⟩ := List.mem_filterMap.mp hrow
    obtain ⟨a, -, rfl⟩ := Option.map_eq_some_iff.mp hk
    dsimp only
    rw [Named.ofName?_name, h a]
    rfl
  refine (if_pos hall).trans (congrArg some (funext fun k => ?_))
  show (Fields.get? (rows encode table Named.all) (Named.name k)).bind decode = table k
  rw [get?_rows (Named.mem_all k)]
  cases table k with
  | none => rfl
  | some a => exact h a

/-! ## Fields -/

section Fields

variable {fields : Fields} {key : String}

theorem required (h : Reads decode encode) {a : α} (hget : fields.get? key = some (encode a)) :
    fields.required? key decode = some a := by
  unfold Fields.required?
  rw [hget, Option.bind_some, h a]

theorem optional (h : Reads decode encode) (hnull : ∀ a, (encode a).isNull = false) {a : Option α}
    (hget : fields.get? key = some (.ofOption encode a)) : fields.optional? key decode = some a := by
  unfold Fields.optional?
  rw [hget]
  exact h.option hnull a

end Fields

theorem record?_object (names : List String) (fields : Fields) :
    (Json.object fields).record? names = some fields := rfl

/-! ## Durations and moments -/

/-- What is made of the two fields of a duration. -/
theorem duration_of_fields {v w : Json} {secs : UInt64} {nanos : UInt32} (hsecs : v.uint64? = some secs)
    (hnanos : w.uint32? = some nanos) :
    Duration.ofJson? (.object [("secs", v), ("nanos", w)]) = Duration.ofParts? secs.toNat nanos.toNat := by
  have hsecs' : Fields.required? [("secs", v), ("nanos", w)] "secs" Json.uint64? = some secs := hsecs
  have hnanos' : Fields.required? [("secs", v), ("nanos", w)] "nanos" Json.uint32? = some nanos := hnanos
  -- The fields are read before anything is made of them.
  have hread : ∀ make : Nat → Nat → Option Duration, (do
      let fields ← (Json.object [("secs", v), ("nanos", w)]).record? ["secs", "nanos"]
      guard (fields.all fun field => field.1 = "secs" ∨ field.1 = "nanos")
      let secs ← Fields.required? fields "secs" Json.uint64?
      let nanos ← Fields.required? fields "nanos" Json.uint32?
      make secs.toNat nanos.toNat) = make secs.toNat nanos.toNat := by
    intro make
    rw [record?_object]
    simp only [Option.bind_eq_bind, Option.bind_some, hsecs', hnanos']
    rfl
  exact hread Duration.ofParts?

/-- Whole seconds fit 64 bits, and the nanoseconds beyond them have nothing to carry. -/
theorem duration : Reads Duration.ofJson? Duration.toJson := by
  intro d
  have hd := d.nanos_lt
  have hsecs : (UInt64.ofNat d.secs).toNat = d.secs := by
    refine UInt64.toNat_ofNat_of_lt' ?_
    simp only [Duration.secs, Duration.limit, Duration.second, UInt64.size] at hd ⊢
    omega
  have hsubsec : (UInt32.ofNat d.subsec).toNat = d.subsec := by
    refine UInt32.toNat_ofNat_of_lt' ?_
    simp only [Duration.subsec, Duration.second, UInt32.size]
    omega
  have hwhole : d.secs * Duration.second + d.subsec = d.nanos := Nat.div_add_mod' d.nanos Duration.second
  unfold Duration.toJson
  rw [← hsecs, ← hsubsec, duration_of_fields (uint64 _) (uint32 _), hsecs, hsubsec]
  unfold Duration.ofParts? Duration.ofNanos?
  rw [hwhole]
  exact dif_pos hd

theorem timestamp : Reads Timestamp.ofJson? Timestamp.toJson := by
  intro t
  show (some t.text).bind Timestamp.read? = some t
  rw [Option.bind_some, Timestamp.read?_text]

/-! ## Records -/

theorem action : Reads Action.ofJson? Action.toJson := by
  intro a
  have hretry : a.fields.required? "should_retry" Json.bool? = some a.shouldRetry := rfl
  have hdelay : a.fields.required? "delay" Duration.ofJson? = some a.delay := required duration rfl
  have hadjustments : a.fields.optional? "parameter_adjustments" Json.object? = some a.adjustments :=
    optional object (fun _ => rfl) rfl
  have hescalate : a.fields.required? "escalate" Json.bool? = some a.escalate := rfl
  have hstop : a.fields.required? "stop_trading" Json.bool? = some a.stopTrading := rfl
  unfold Action.ofJson? Action.toJson
  simp only [record?_object, hretry, hdelay, hadjustments, hescalate, hstop, Option.bind_eq_bind, Option.bind_some]

theorem status : Reads Stamped.statusOfJson? Stamped.statusToJson := by
  rintro ⟨s, time⟩
  let fields : Fields := ("last_health_check", time.toJson) :: s.fields
  have htime : fields.required? "last_health_check" Timestamp.ofJson? = some time := required timestamp rfl
  have hname : fields.required? "name" Json.text? = some s.name := rfl
  have hpriority : fields.required? "priority" (Json.named? Json.isNull) = some s.priority := required (named _) rfl
  have hactive : fields.required? "is_active" Json.bool? = some s.active := rfl
  have hhealthy : fields.required? "is_healthy" Json.bool? = some s.healthy := rfl
  have herrors : fields.required? "error_count" Json.uint64? = some s.errorCount := required uint64 rfl
  have hdegraded : fields.required? "degraded_mode" Json.bool? = some s.degraded := rfl
  have hreason : fields.optional? "failure_reason" Json.text? = some s.reason := optional text (fun _ => rfl) rfl
  unfold Stamped.statusOfJson? Stamped.statusToJson ComponentStatus.ofFields?
  rw [record?_object]
  simp only [htime, hname, hpriority, hactive, hhealthy, herrors, hdegraded, hreason, fields, Option.bind_eq_bind,
    Option.bind_some]

theorem degradation {σ : Type} {decode : Json → Option σ} {encode : σ → Json} (h : Reads decode encode) :
    Reads (Degradation.ofJson? decode) (Degradation.toJson encode) := by
  intro d
  let fields : Fields :=
    [("component", .text d.component), ("outcome", .ofName d.outcome), ("status", encode d.status),
     ("system_state", .ofName d.systemState)]
  have hcomponent : fields.required? "component" Json.text? = some d.component := rfl
  have houtcome : fields.required? "outcome" (Json.named? Json.isNull) = some d.outcome := required (named _) rfl
  have hstatus : fields.required? "status" decode = some d.status := required h rfl
  have hstate : fields.required? "system_state" (Json.named? Json.isNull) = some d.systemState :=
    required (named _) rfl
  unfold Degradation.ofJson? Degradation.toJson
  rw [record?_object]
  simp only [hcomponent, houtcome, hstatus, hstate, fields, Option.bind_eq_bind, Option.bind_some]

theorem metrics {τ : Type} {decode : Json → Option τ} {encode : τ → Json} (h : Reads decode encode)
    (hnull : ∀ t, (encode t).isNull = false) :
    Reads (BreakerMetrics.ofJson? decode) (BreakerMetrics.toJson encode) := by
  intro m
  let fields : Fields :=
    [("active", .bool m.active), ("consecutive_failures", .ofNat m.consecutiveFailures.toNat),
     ("failure_threshold", .ofNat m.failureThreshold.toNat), ("cooldown", m.cooldown.toJson),
     ("activated_at", .ofOption encode m.activatedAt), ("total_failures", .ofNat m.totalFailures.toNat),
     ("total_successes", .ofNat m.totalSuccesses.toNat), ("activation_count", .ofNat m.activationCount.toNat)]
  have hactive : fields.required? "active" Json.bool? = some m.active := rfl
  have hconsecutive : fields.required? "consecutive_failures" Json.uint64? = some m.consecutiveFailures :=
    required uint64 rfl
  have hthreshold : fields.required? "failure_threshold" Json.uint32? = some m.failureThreshold := required uint32 rfl
  have hcooldown : fields.required? "cooldown" Duration.ofJson? = some m.cooldown := required duration rfl
  have hactivated : fields.optional? "activated_at" decode = some m.activatedAt := optional h hnull rfl
  have hfailures : fields.required? "total_failures" Json.uint64? = some m.totalFailures := required uint64 rfl
  have hsuccesses : fields.required? "total_successes" Json.uint64? = some m.totalSuccesses := required uint64 rfl
  have hactivations : fields.required? "activation_count" Json.uint64? = some m.activationCount := required uint64 rfl
  unfold BreakerMetrics.ofJson? BreakerMetrics.toJson
  rw [record?_object]
  simp only [hactive, hconsecutive, hthreshold, hcooldown, hactivated, hfailures, hsuccesses, hactivations, fields,
    Option.bind_eq_bind, Option.bind_some]

/-- An entry of a summary is read back whatever else may stand beside a name. -/
theorem recentError (blank : Json → Bool) : Reads (Logged.errorOfJson? blank) Logged.errorToJson := by
  rintro ⟨id, e, time⟩
  let fields : Fields := ("error_id", .text id) :: ("timestamp", time.toJson) :: e.fields
  have hid : fields.required? "error_id" Json.text? = some id := rfl
  have htime : fields.required? "timestamp" Timestamp.ofJson? = some time := required timestamp rfl
  have hoperation : fields.required? "operation" Json.text? = some e.operation := rfl
  have hcategory : fields.required? "category" (Json.named? blank) = some e.category := required (named blank) rfl
  have hseverity : fields.required? "severity" (Json.named? blank) = some e.severity := required (named blank) rfl
  have hmessage : fields.required? "message" Json.text? = some e.message := rfl
  have hretries : fields.required? "retry_count" Json.uint32? = some e.retryCount := required uint32 rfl
  have hdata : fields.optional? "additional_data" Json.object? = some e.data := optional object (fun _ => rfl) rfl
  unfold Logged.errorOfJson? Logged.errorToJson RecentError.ofFields?
  rw [record?_object]
  simp only [hid, htime, hoperation, hcategory, hseverity, hmessage, hretries, hdata, fields, Option.bind_eq_bind,
    Option.bind_some]

/-- A summary is read back from its fields whatever comes after them, if its entries are. -/
theorem summary_fields {ε : Type} {decode : Json → Option ε} {encode : ε → Json} (h : Reads decode encode)
    (s : Summary ε) (more : Fields) : Summary.ofFields? decode (s.fields encode ++ more) = some s := by
  have htotal : (s.fields encode ++ more).required? "total_errors" Json.uint64? = some s.totalErrors :=
    required uint64 rfl
  have hretained : (s.fields encode ++ more).required? "retained" Json.uint64? = some s.retained :=
    required uint64 rfl
  have hescalations : (s.fields encode ++ more).required? "escalations" Json.uint64? = some s.escalations :=
    required uint64 rfl
  have hcategory : (s.fields encode ++ more).required? "by_category" (Json.table? Json.uint64?) = some s.byCategory :=
    required (table uint64) rfl
  have hseverity : (s.fields encode ++ more).required? "by_severity" (Json.table? Json.uint64?) = some s.bySeverity :=
    required (table uint64) rfl
  have hrecent : (s.fields encode ++ more).required? "recent_errors" (Json.list? decode) = some s.recent :=
    required (list h) rfl
  unfold Summary.ofFields?
  simp only [htotal, hretained, hescalations, hcategory, hseverity, hrecent, Option.bind_eq_bind, Option.bind_some]

theorem summary {ε : Type} {decode : Json → Option ε} {encode : ε → Json} (h : Reads decode encode) :
    Reads (Summary.ofJson? decode) (Summary.toJson encode) := by
  intro s
  have hfields := summary_fields h s []
  rw [List.append_nil] at hfields
  unfold Summary.ofJson? Summary.toJson
  rw [record?_object, Option.bind_some, hfields]

theorem statistics : Reads Statistics.ofJson? Statistics.toJson := by
  rintro ⟨⟨errors, breaker, halted⟩, time⟩
  let own : Fields :=
    [("circuit_breaker", breaker.toJson Timestamp.toJson), ("trading_halted", .bool halted),
     ("generated_at", time.toJson)]
  let fields : Fields := errors.fields Logged.errorToJson ++ own
  have herrors : Summary.ofFields? (Logged.errorOfJson? Json.isVoid) fields = some errors :=
    summary_fields (recentError Json.isVoid) errors own
  have hbreaker : fields.required? "circuit_breaker" (BreakerMetrics.ofJson? Timestamp.ofJson?) = some breaker :=
    required (metrics timestamp fun _ => rfl) rfl
  have hhalted : fields.required? "trading_halted" Json.bool? = some halted := rfl
  have htime : fields.required? "generated_at" Timestamp.ofJson? = some time := required timestamp rfl
  unfold Statistics.ofJson? Statistics.toJson
  rw [object]
  simp only [herrors, hbreaker, hhalted, htime, fields, own, Option.bind_eq_bind, Option.bind_some]

/-- An action is told by its tag. -/
theorem governorAction : Reads GovernorAction.ofJson? GovernorAction.toJson := by
  intro action
  cases action with
  | disabledLowPriority components =>
    have hcomponents :
        GovernorAction.disabled? (.ofList .text components) = some (.disabledLowPriority components) := by
      unfold GovernorAction.disabled?
      rw [list text, Option.map_some]
    exact hcomponents
  | reducedProcessingFrequency => rfl
  | logLevelLowered => rfl
  | forcedCleanup => rfl

end Reads

/-! ## Normal forms -/

/-- Every value that is written is read back; what a value that can be read is written as can be read again, and gives
the same value; and so reading and writing brings a value into a form that it leaves as it is. -/
structure RoundTrip {α : Type} (encode : α → Json) (decode : Json → Option α) : Prop where
  read_written : ∀ a, decode (encode a) = some a
  reread : ∀ v a, decode v = some a → decode (encode a) = some a
  normal : ∀ v, ((decode v).map encode).bind (fun w => (decode w).map encode) = (decode v).map encode

theorem Reads.roundTrip {α : Type} {decode : Json → Option α} {encode : α → Json} (h : Reads decode encode) :
    RoundTrip encode decode where
  read_written := h
  reread := fun _ a _ => h a
  normal := by
    intro v
    cases decode v with
    | none => rfl
    | some a =>
      show (decode (encode a)).map encode = some (encode a)
      rw [h a, Option.map_some]

/-- **Records make the round trip**: an action, the status of a component, the result of a report, the figures of a
breaker, an entry of a summary, a summary, statistics with the summary among their fields, and an action of the
governor. -/
theorem records_roundTrip :
    RoundTrip Action.toJson Action.ofJson? ∧
    RoundTrip Stamped.statusToJson Stamped.statusOfJson? ∧
    RoundTrip (Degradation.toJson Stamped.statusToJson) (Degradation.ofJson? Stamped.statusOfJson?) ∧
    RoundTrip (BreakerMetrics.toJson Timestamp.toJson) (BreakerMetrics.ofJson? Timestamp.ofJson?) ∧
    RoundTrip Logged.errorToJson (Logged.errorOfJson? Json.isNull) ∧
    RoundTrip (Summary.toJson Logged.errorToJson) (Summary.ofJson? (Logged.errorOfJson? Json.isNull)) ∧
    RoundTrip Statistics.toJson Statistics.ofJson? ∧
    RoundTrip GovernorAction.toJson GovernorAction.ofJson? :=
  ⟨Reads.action.roundTrip, Reads.status.roundTrip, (Reads.degradation Reads.status).roundTrip,
    (Reads.metrics Reads.timestamp fun _ => rfl).roundTrip, (Reads.recentError Json.isNull).roundTrip,
    (Reads.summary (Reads.recentError Json.isNull)).roundTrip, Reads.statistics.roundTrip,
    Reads.governorAction.roundTrip⟩

/-- An action given as an array, with surplus nanoseconds, in its normal form. -/
example :
    (Action.ofJson? (.array [.bool true, .object [("nanos", .ofNat 1500000000), ("secs", .ofNat 1)], .null,
      .bool false, .bool false])).map Action.toJson = some (Action.retryAfter ⟨2500000000, by decide⟩).toJson := rfl

end Failsafe
