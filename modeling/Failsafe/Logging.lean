import Failsafe.Logging.Filter
import Failsafe.Settings.Load

/-!
# Log output

How a process logs, as its variables say: `RUST_LOG` gives the filter, or else the environment does, which shows
less in production; `RESILIENCE_LOG_FORMAT` chooses lines that are JSON. The filter can be replaced while the
process runs.
-/

namespace Failsafe

/-- The log output of a process. -/
structure Logging where
  environment : String
  /-- The filter as it was given. -/
  levels : String
  json : Bool
  filter : LogFilter

namespace Logging

/-- The filter of an environment. -/
def usualLevels (environment : String) : String :=
  if environment = "production" then "info" else "debug"

def isJsonFormat (s : String) : Bool := String.ofList (s.toList.map Char.toLower) = "json"

/-- How a process logs, unless its filter cannot be read. -/
def ofVariables? (vars : Variables) : Option Logging :=
  let environment := ((vars.get? "RESILIENCE_ENV").or (vars.get? "APP_ENV")).getD "development"
  let levels := (vars.get? "RUST_LOG").getD (usualLevels environment)
  (LogFilter.read? levels).map fun filter =>
    { environment
      levels
      json := (vars.get? "RESILIENCE_LOG_FORMAT").any isJsonFormat
      filter }

/-- Replaces the filter by one ceiling for all lines. -/
def setCeiling (l : Logging) (ceiling : LogCeiling) : Logging := { l with filter := .upTo ceiling }

/-- The line that tells how logging was set up. -/
def notice : LogSource :=
  ⟨"trade_resilience::logging", ["message", "pid", "environment", "log_level", "json"]⟩

def noticeMessage : String := "Structured logging initialized"

/-- Whether the line that tells how logging was set up is shown. -/
def showsNotice (l : Logging) : Bool := l.filter.shows notice .info

/-- The levels at which lines are shown. -/
def shownLevels (l : Logging) (source : LogSource) : List LogLevel :=
  LogLevel.all.filter (l.filter.shows source)

end Logging

end Failsafe
