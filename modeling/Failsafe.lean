import Failsafe.Clock
import Failsafe.Duration.Seconds
import Failsafe.Decimal.Text
import Failsafe.Json.Text
import Failsafe.Failure.Classify
import Failsafe.Incident
import Failsafe.Recovery.Policy
import Failsafe.Redaction.Tree
import Failsafe.Redaction.Secret
import Failsafe.Settings.Record
import Failsafe.Incident.Record
import Failsafe.Recovery.Record
import Failsafe.Health.Record
import Failsafe.Session.Record
import Failsafe.Session.Command
import Failsafe.Logging
import Failsafe.Main
import Failsafe.Proofs.Breaker.Activation
import Failsafe.Proofs.Breaker.Timing
import Failsafe.Health.Shared
import Failsafe.Proofs.Health.Registry
import Failsafe.Proofs.Health.Shared
import Failsafe.Proofs.Health.Terminal
import Failsafe.Proofs.Session.Attempt
import Failsafe.Proofs.Session.Completion
import Failsafe.Proofs.Duration.Seconds
import Failsafe.Proofs.Session.Opening
import Failsafe.Proofs.Health.Refresh
import Failsafe.Proofs.Health.Snapshot
import Failsafe.Proofs.Session.Course
import Failsafe.Proofs.Session.FailFast
import Failsafe.Proofs.Session.Background
import Failsafe.Proofs.Session.Chronicle
import Failsafe.Proofs.Session.Gate
import Failsafe.Proofs.Session.Ledger
import Failsafe.Proofs.Session.Settle
import Failsafe.Proofs.Redaction.Settling
import Failsafe.Proofs.Redaction.Value
import Failsafe.Proofs.Redaction.Hex
import Failsafe.Proofs.Redaction.Assignment
import Failsafe.Proofs.Redaction.Number
import Failsafe.Proofs.Fields
import Failsafe.Proofs.Session.Slippage
import Failsafe.Proofs.Health.Reasons
import Failsafe.Proofs.Redaction.Tree
import Failsafe.Proofs.Session.Unread
import Failsafe.Proofs.Session.Noninterference
import Failsafe.Proofs.Health.Evolution
import Failsafe.Proofs.Session.Moves
import Failsafe.Proofs.Session.Redacted
import Failsafe.Proofs.Session.StateChanges
import Failsafe.Proofs.Health.Status
import Failsafe.Proofs.Health.Diagram
import Failsafe.Proofs.Session.Parameters
import Failsafe.Proofs.Breaker.Totals
import Failsafe.Proofs.Session.Outside
import Failsafe.Proofs.Session.Dropped
import Failsafe.Proofs.Session.Unattended
import Failsafe.Proofs.Session.Service
import Failsafe.Proofs.Breaker.Account
import Failsafe.Proofs.History
import Failsafe.Proofs.Session.Halt
import Failsafe.Proofs.Session.Working
import Failsafe.Proofs.Session.Shutdown
import Failsafe.Proofs.Session.Perform
import Failsafe.Proofs.Redaction.Vocabulary
import Failsafe.Proofs.Health.Accesses
import Failsafe.Proofs.Health.Overtaken
import Failsafe.Proofs.Timestamp
import Failsafe.Proofs.Record
import Failsafe.Proofs.Settings.Leaves
import Failsafe.Proofs.Settings.Loading
import Failsafe.Proofs.Settings.Variables
import Failsafe.Proofs.Redaction.Structure
import Failsafe.Proofs.Recovery.Decision
import Failsafe.Proofs.Failure.Extension
import Failsafe.Proofs.Float.Rounding
import Failsafe.Proofs.Float.Nearest
import Failsafe.Proofs.Float.Power
import Failsafe.Proofs.Duration.Roundtrip
import Failsafe.Proofs.Recovery.Delay
import Failsafe.Proofs.Failure.Label
import Failsafe.Proofs.Health.Tier
import Failsafe.Proofs.Session.Happenings
import Failsafe.Proofs.Session.Schedule
import Failsafe.Proofs.Session.Throttle
