import Failsafe.Date

/-!
# Timestamps

A moment in universal time: a date, a minute of the day, a second and nanoseconds. A minute may have a second
60, the leap second. `ofLocal?` takes a clock reading and how far east of universal time the clock is.
-/

namespace Failsafe

/-- A moment in universal time. -/
structure Timestamp where
  date : Date
  /-- Minutes since midnight. -/
  minute : Nat
  second : Nat
  nanos : Nat
  minute_lt : minute < 1440
  second_le : second ≤ 60
  nanos_lt : nanos < 1000000000
deriving DecidableEq

namespace Timestamp

def of? (date : Date) (minute second nanos : Nat) : Option Timestamp :=
  if h : minute < 1440 ∧ second ≤ 60 ∧ nanos < 1000000000 then
    some ⟨date, minute, second, nanos, h.1, h.2.1, h.2.2⟩
  else none

/-- The moment at which a clock that is `east` minutes ahead shows a date, a minute of the day, a second and
nanoseconds. -/
def ofLocal? (date : Date) (minute second nanos : Nat) (east : Int) : Option Timestamp :=
  let minute : Int := minute - east
  if minute < 0 then do
    let date ← date.previous?
    of? date (minute + 1440).toNat second nanos
  else if 1440 ≤ minute then do
    let date ← date.next?
    of? date (minute - 1440).toNat second nanos
  else of? date minute.toNat second nanos

end Timestamp

end Failsafe
