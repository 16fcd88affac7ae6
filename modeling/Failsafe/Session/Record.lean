import Failsafe.Breaker.Record
import Failsafe.History.Record
import Failsafe.Session

/-!
# Statistics as records

The fields of the summary stand among those of the statistics. A record of statistics is always an object.
-/

namespace Failsafe.Statistics

/-- What is recorded: statistics with stamped entries and times, and the moment they were taken. -/
abbrev Recorded := Stamped (Statistics (Logged String RecentError) Timestamp)

def toJson (r : Recorded) : Json :=
  .object (r.value.errors.fields Logged.errorToJson ++
    [("circuit_breaker", r.value.breaker.toJson Timestamp.toJson),
     ("trading_halted", .bool r.value.tradingHalted), ("generated_at", r.time.toJson)])

def ofJson? (v : Json) : Option Recorded := do
  let fields ← v.object?
  let errors ← Summary.ofFields? (Logged.errorOfJson? Json.isVoid) fields
  let breaker ← fields.required? "circuit_breaker" (BreakerMetrics.ofJson? Timestamp.ofJson?)
  let tradingHalted ← fields.required? "trading_halted" Json.bool?
  let time ← fields.required? "generated_at" Timestamp.ofJson?
  some { value := { errors, breaker, tradingHalted }, time }

end Failsafe.Statistics
