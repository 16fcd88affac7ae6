import Failsafe.Duration
import Failsafe.Json.Parts

/-!
# Durations as records

A duration is written as its whole seconds and the nanoseconds beyond them. When it is read, a billion
nanoseconds or more carry into the seconds; other fields than the two are refused.
-/

namespace Failsafe.Duration

def toJson (d : Duration) : Json :=
  .object [("secs", .ofNat d.secs), ("nanos", .ofNat d.subsec)]

def ofJson? (v : Json) : Option Duration := do
  let fields ← v.record? ["secs", "nanos"]
  guard (fields.all fun (key, _) => key = "secs" ∨ key = "nanos")
  let secs ← Fields.required? fields "secs" Json.uint64?
  let nanos ← Fields.required? fields "nanos" Json.uint32?
  ofParts? secs.toNat nanos.toNat

end Failsafe.Duration
